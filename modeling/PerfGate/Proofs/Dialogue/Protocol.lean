import Mathlib.Tactic.Use
import PerfGate.Proofs.Dialogue

/-!
# Protocols

A protocol says what may be asked in a state, and to what states an exchange may lead.  A dialogue
keeps a protocol if all it asks is allowed, whatever the answers; the rules of `Protocol.Keeps`
follow the program.  What is true before and after every exchange of some kind is true before and
after a program that asks nothing else (`Protocol.Maintains`).
-/

namespace PerfGate

/-- Rules for a dialogue. -/
structure Protocol (S : Type) where
  /-- What may be asked in a state. -/
  allows : S → Request → Prop
  /-- Where an exchange may lead. -/
  leads : S → Exchange → S → Prop

namespace Protocol

variable {S α β : Type}

/-! ### Transcripts -/

/-- Whether exchanges may lead from a state to another. -/
inductive Passes (p : Protocol S) : S → List Exchange → S → Prop
  | nil (s : S) : Passes p s [] s
  | cons {s s' s'' : S} {e : Exchange} {es : List Exchange} (first : p.leads s e s')
      (rest : Passes p s' es s'') : Passes p s (e :: es) s''

/-- Whether exchanges lead from a state to another, and all that was asked was allowed. -/
inductive Observes (p : Protocol S) : S → List Exchange → S → Prop
  | nil (s : S) : Observes p s [] s
  | cons {s s' s'' : S} {e : Exchange} {es : List Exchange} (allowed : p.allows s e.request)
      (first : p.leads s e s') (rest : Observes p s' es s'') : Observes p s (e :: es) s''

/-- What is so behind a result. -/
def ending (good : α → S → Prop) (bad : Failure → S → Prop) : Except Failure α → S → Prop
  | .ok a => good a
  | .error e => bad e

/-- What is so behind an answer that may be a refusal. -/
def granted {ε : Type} (good : α → S → Prop) (refused : S → Prop) : Except ε α → S → Prop
  | .ok a => good a
  | .error _ => refused

/-- Whether a dialogue that starts in a state asks only what is allowed, and how it ends. -/
def Keeps (p : Protocol S) (s : S) (good : α → S → Prop) (bad : Failure → S → Prop) :
    Dialogue α → Prop
  | .ended result => ending good bad result s
  | .ask q next => p.allows s q ∧ ∀ a s', p.leads s ⟨q, a⟩ s' → Keeps p s' good bad (next a)

variable {p : Protocol S} {s s' : S} {good good' : α → S → Prop} {bad bad' : Failure → S → Prop}

theorem Passes.append {s'' : S} {es es' : List Exchange} (h : p.Passes s es s')
    (h' : p.Passes s' es' s'') :
  p.Passes s (es ++ es') s''
  := by
  induction h with
  | nil s => apply h'
  | cons first _ ih => apply Passes.cons first (ih h')

/-- Every transcript of a dialogue that keeps a protocol observes it. -/
theorem Keeps.observes {x : Dialogue α} (h : p.Keeps s good bad x) {es : List Exchange}
    {result : Except Failure α} (hruns : x.Runs es result) (hpasses : p.Passes s es s') :
  p.Observes s es s' ∧ ending good bad result s'
  := by
  induction hruns generalizing s with
  | ended result =>
    cases hpasses
    exact ⟨.nil _, h⟩
  | ask a _ ih =>
    obtain ⟨hallows, hnext⟩ := h
    cases hpasses with
    | cons hfirst hrest =>
      obtain ⟨hobserves, hending⟩ := ih (hnext a _ hfirst) hrest
      exact ⟨.cons hallows hfirst hobserves, hending⟩

/-- Whatever a dialogue that keeps a protocol asks is allowed, whether or not it is answered. -/
theorem Keeps.allows_of_asks {x : Dialogue α} (h : p.Keeps s good bad x) {es : List Exchange}
    {q : Request} (hasks : x.Asks es q) (hpasses : p.Passes s es s') :
  p.allows s' q
  := by
  induction hasks generalizing s with
  | now q next =>
    cases hpasses
    apply h.1
  | later a _ ih =>
    cases hpasses with
    | cons hfirst hrest => apply ih (h.2 a _ hfirst) hrest

/-! ### All requests -/

/-- The protocol that allows everything and leads where another one does. -/
def free (p : Protocol S) : Protocol S where
  allows _ _ := True
  leads := p.leads

theorem Keeps.free {x : Dialogue α} (h : p.Keeps s good bad x) :
  p.free.Keeps s good bad x
  := by
  induction x generalizing s with
  | ended result => apply h
  | ask q next ih =>
    use trivial
    intro a s' hleads
    apply ih a (h.2 a s' hleads)

theorem Passes.free {es : List Exchange} (h : p.Passes s es s') :
  p.free.Passes s es s'
  := by
  induction h with
  | nil s => apply Passes.nil
  | cons hfirst _ ih => apply Passes.cons (p := p.free) hfirst ih

/-! ### Rules -/

theorem Keeps.mono {x : Dialogue α} (h : p.Keeps s good bad x)
    (hgood : ∀ a s', good a s' → good' a s') (hbad : ∀ e s', bad e s' → bad' e s') :
  p.Keeps s good' bad' x
  := by
  induction x generalizing s with
  | ended result =>
    cases result with
    | ok a => apply hgood _ _ h
    | error e => apply hbad _ _ h
  | ask q next ih =>
    use h.1
    intro a s' hleads
    apply ih a (h.2 a s' hleads)

theorem keeps_pure {a : α} (h : good a s) :
  p.Keeps s good bad (pure a)
  := h

theorem keeps_fail {e : RunError} (h : bad (.gate e) s) :
  p.Keeps s good bad (fail e)
  := h

/-- A single request is allowed, and its answer is the value. -/
theorem keeps_single (q : Request) {good : q.Answer → S → Prop} (hallows : p.allows s q)
    (hgood : ∀ a s', p.leads s ⟨q, a⟩ s' → good a s') :
  p.Keeps s good bad (Dialogue.single q)
  := ⟨hallows, hgood⟩

/-- A program goes on from where its first part ends. -/
theorem Keeps.bind {x : Dialogue α} {f : α → Dialogue β} {mid : α → S → Prop} {good : β → S → Prop}
    (h : p.Keeps s mid bad x) (hf : ∀ a s', mid a s' → p.Keeps s' good bad (f a)) :
  p.Keeps s good bad (x >>= f)
  := by
  induction x generalizing s with
  | ended result =>
    cases result with
    | ok a => apply hf a s h
    | error e => apply h
  | ask q next ih =>
    use h.1
    intro a s' hleads
    apply ih a (h.2 a s' hleads)

/-- A program that asks once goes on with the answer. -/
theorem keeps_single_bind (q : Request) {f : q.Answer → Dialogue β} {good : β → S → Prop}
    (hallows : p.allows s q) (hf : ∀ a s', p.leads s ⟨q, a⟩ s' → p.Keeps s' good bad (f a)) :
  p.Keeps s good bad (Dialogue.single q >>= f)
  := ⟨hallows, hf⟩

theorem Keeps.map {x : Dialogue α} {f : α → β} {good : β → S → Prop}
    (h : p.Keeps s (fun a => good (f a)) bad x) :
  p.Keeps s good bad (f <$> x)
  := h.bind fun _ _ hgood => hgood

theorem Keeps.tryCatch {x : Dialogue α} {f : Failure → Dialogue α} {mid : Failure → S → Prop}
    (h : p.Keeps s good mid x) (hf : ∀ e s', mid e s' → p.Keeps s' good bad (f e)) :
  p.Keeps s good bad (tryCatch x f)
  := by
  induction x generalizing s with
  | ended result =>
    cases result with
    | ok a => apply h
    | error e => apply hf e s h
  | ask q next ih =>
    use h.1
    intro a s' hleads
    apply ih a (h.2 a s' hleads)

theorem keeps_ofExcept {ε : Type} {wrap : ε → RunError} {r : Except ε α}
    (hok : ∀ a, r = .ok a → good a s) (herror : ∀ e, r = .error e → bad (.gate (wrap e)) s) :
  p.Keeps s good bad (ofExcept wrap r)
  := by
  cases r with
  | ok a => apply hok a rfl
  | error e => apply herror e rfl

/-- A program goes on only if it was not refused. -/
theorem Keeps.granted_bind {ε : Type} {x : Dialogue (Except ε α)} {wrap : ε → RunError}
    {f : α → Dialogue β} {mid : α → S → Prop} {refused : S → Prop} {good : β → S → Prop}
    (hx : p.Keeps s (granted mid refused) (fun _ => refused) x)
    (hf : ∀ a s', mid a s' → p.Keeps s' good (fun _ => refused) (f a)) :
  p.Keeps s good (fun _ => refused) (do f (← ofExcept wrap (← x)))
  := by
  apply hx.bind
  intro answer s' hs'
  cases answer with
  | ok a => apply hf a s' hs'
  | error e => apply hs'

/-- What is to be done behind a program is done however it ended. -/
theorem Keeps.ensuring {body : Dialogue α} {release : Dialogue Unit} {mid : α → S → Prop}
    {midBad : Failure → S → Prop} (h : p.Keeps s mid midBad body)
    (hgood : ∀ a s', mid a s' → p.Keeps s' (fun _ => good a) bad release)
    (hbad : ∀ e s', midBad e s' → p.Keeps s' (fun _ => bad e) bad release) :
  p.Keeps s good bad (ensuring body release)
  := by
  have hmapped : p.Keeps s (ending mid midBad) midBad (Except.ok <$> body) := by
    apply Keeps.map
    apply h
  have hresult : p.Keeps s (ending mid midBad) bad
      (MonadExcept.tryCatch (Except.ok <$> body) fun e => pure (Except.error e)) := by
    apply hmapped.tryCatch
    intro e s' hs'
    apply hs'
  apply hresult.bind
  intro result s' hs'
  cases result with
  | ok a =>
    apply (hgood a s' hs').bind
    intro _ s'' hs''
    apply hs''
  | error e =>
    apply (hbad e s' hs').bind
    intro _ s'' hs''
    apply hs''

/-- What is to be done behind a program leaves the same however the program ended. -/
theorem Keeps.ensuring_same {body : Dialogue α} {release : Dialogue Unit} {mid post : S → Prop}
    (h : p.Keeps s (fun _ => mid) (fun _ => mid) body)
    (hrelease : ∀ s', mid s' → p.Keeps s' (fun _ => post) (fun _ => post) release) :
  p.Keeps s (fun _ => post) (fun _ => post) (PerfGate.ensuring body release)
  := h.ensuring (fun _ => hrelease) fun _ => hrelease

/-! ### What stays -/

variable {I : S → Prop}

/-- Whether a dialogue keeps a protocol wherever something is so, and leaves it so. -/
def Maintains (p : Protocol S) (I : S → Prop) (x : Dialogue α) : Prop :=
  ∀ s, I s → p.Keeps s (fun _ => I) (fun _ => I) x

/-- Whether requests of some kind are allowed wherever something is so, and leave it so. -/
def Bears (p : Protocol S) (kind : Request → Prop) (I : S → Prop) : Prop :=
  ∀ q, kind q → p.Maintains I (Dialogue.single q)

theorem Bears.mono {kind kind' : Request → Prop} (h : p.Bears kind' I)
    (hle : ∀ q, kind q → kind' q) :
  p.Bears kind I
  := fun q hq => h q (hle q hq)

/-- A program that asks once, where that leaves something so, goes on from there. -/
theorem Bears.keeps_bind {kind : Request → Prop} (h : p.Bears kind I) (q : Request) (hq : kind q)
    (hs : I s) {f : q.Answer → Dialogue β} {good : β → S → Prop}
    (hf : ∀ a s', I s' → p.Keeps s' good bad (f a)) :
  p.Keeps s good bad (Dialogue.single q >>= f)
  := by
  obtain ⟨hallows, hleads⟩ := h q hq s hs
  apply keeps_single_bind q hallows
  intro a s' h
  apply hf a s' (hleads a s' h)

theorem maintains_pure (a : α) :
  p.Maintains I (pure a)
  := fun _ hs => hs

theorem maintains_throw (e : Failure) :
  p.Maintains I (throw e : Dialogue α)
  := fun _ hs => hs

theorem maintains_fail (e : RunError) :
  p.Maintains I (fail e : Dialogue α)
  := fun _ hs => hs

/-- What would come after a failure is not asked. -/
theorem maintains_throw_bind (e : Failure) (f : α → Dialogue β) :
  p.Maintains I ((throw e : Dialogue α) >>= f)
  := fun _ hs => hs

theorem maintains_fail_bind (e : RunError) (f : α → Dialogue β) :
  p.Maintains I ((fail e : Dialogue α) >>= f)
  := fun _ hs => hs

theorem maintains_ofExcept {ε : Type} (wrap : ε → RunError) (r : Except ε α) :
  p.Maintains I (ofExcept wrap r)
  := fun _ hs => keeps_ofExcept (fun _ _ => hs) fun _ _ => hs

theorem Maintains.bind {x : Dialogue α} {f : α → Dialogue β} (hx : p.Maintains I x)
    (hf : ∀ a, p.Maintains I (f a)) :
  p.Maintains I (x >>= f)
  := by
  intro s hs
  apply (hx s hs).bind
  intro a s' hs'
  apply hf a s' hs'

/-- A program goes on from where its first part leaves something so. -/
theorem Maintains.keeps_bind {x : Dialogue α} (hx : p.Maintains I x) (hs : I s)
    {f : α → Dialogue β} {good : β → S → Prop} (hbad : ∀ e s', I s' → bad e s')
    (hf : ∀ a s', I s' → p.Keeps s' good bad (f a)) :
  p.Keeps s good bad (x >>= f)
  := ((hx s hs).mono (fun _ _ h => h) hbad).bind hf

theorem Maintains.map {x : Dialogue α} (hx : p.Maintains I x) (f : α → β) :
  p.Maintains I (f <$> x)
  := hx.bind fun a => maintains_pure (f a)

theorem Maintains.tryCatch {x : Dialogue α} {f : Failure → Dialogue α} (hx : p.Maintains I x)
    (hf : ∀ e, p.Maintains I (f e)) :
  p.Maintains I (tryCatch x f)
  := by
  intro s hs
  apply (hx s hs).tryCatch
  intro e s' hs'
  apply hf e s' hs'

theorem Maintains.ensuring {body : Dialogue α} {release : Dialogue Unit}
    (hbody : p.Maintains I body) (hrelease : p.Maintains I release) :
  p.Maintains I (ensuring body release)
  := fun s hs => (hbody s hs).ensuring_same hrelease

theorem Bears.checkInterruption {kind : Request → Prop} (h : p.Bears kind I)
    (hkind : kind .interrupted) :
  p.Maintains I checkInterruption
  := by
  apply (h .interrupted hkind).bind
  intro stopped
  split
  · apply maintains_fail
  · apply maintains_pure

end Protocol

end PerfGate

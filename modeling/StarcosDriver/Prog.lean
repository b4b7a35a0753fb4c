import StarcosDriver.Framework

/-!
# Driver operations as interaction trees

Every operation of the driver is a straight-line sequence of APDU exchanges whose
branches depend on the card's answers.  It is modelled as a tree: `Prog.transmit apdu k`
sends `apdu` and continues with `k` on whatever `sc_transmit_apdu` hands back, a
transport error or any status word with any response.  A few operations also allocate
(`sc_file_new`, `malloc`), which may fail: `Prog.alloc k` continues with `k` on the
outcome.  Nothing about the card is fixed by the tree, so "for every sequence of card
answers" is "along every path of the tree".

The one recursion of the driver, `starcos_select_file` calling itself, does not
terminate from every cache state.  Its model takes fuel, and a path on which the fuel
runs out ends in `Prog.diverge`: such a path returns nothing.  `Total` says that no path
does, which is how termination is stated.

The views of a tree the later files use:

* `Trace p t a` --- along the events `t` (the exchanges and allocation outcomes, in
  order) `p` returns `a`; `Yields p a` forgets the events;
* `Always P p` and `AlwaysT P p` --- every result of `p`, and every path with its events,
  satisfies `P`, computed by recursion on the tree; `always_iff` and `alwaysT_iff`
  connect them to `Yields` and `Trace`;
* `Total`, `StopsOnRefusal` and `SendsOnly` --- no path runs out of fuel, a refused
  command ends the path, every command sent satisfies a predicate;
* `Follows step s t s'` --- a card whose moves are given by `step` goes from `s` to `s'`
  answering the exchanges of `t`; `Hoare step P p Q` is the triple it gives, and `run`
  plays `p` against a card that answers deterministically (`trace_of_run`,
  `follows_run`, `run_bind`).

Each view has its lemma for `bind`, and the later files reason about sequencing only
through these.
-/

namespace StarcosDriver

/-- A driver computation returning an `α`. -/
inductive Prog (α : Type) where
  | ret (a : α)
  | transmit (apdu : Apdu) (k : Reply → Prog α)
  | alloc (k : Bool → Prog α)
  | diverge

namespace Prog

variable {α β : Type}

/-- Run `p`, then `f` on its result. -/
def bind : Prog α → (α → Prog β) → Prog β
  | .ret a, f => f a
  | .transmit apdu k, f => .transmit apdu fun r => (k r).bind f
  | .alloc k, f => .alloc fun b => (k b).bind f
  | .diverge, _ => .diverge

@[simp] theorem ret_bind (a : α) (f : α → Prog β) : (ret a).bind f = f a := rfl

@[simp] theorem transmit_bind (apdu : Apdu) (k : Reply → Prog α) (f : α → Prog β) :
    (transmit apdu k).bind f = transmit apdu fun r => (k r).bind f := rfl

@[simp] theorem alloc_bind (k : Bool → Prog α) (f : α → Prog β) :
    (alloc k).bind f = alloc fun b => (k b).bind f := rfl

@[simp] theorem diverge_bind (f : α → Prog β) : (diverge : Prog α).bind f = diverge := rfl

/-- Apply `f` to the result. -/
def map (f : α → β) (p : Prog α) : Prog β := p.bind fun a => .ret (f a)

/-- `r = sc_transmit_apdu(card, &apdu); SC_TEST_RET(ctx, r, ...)`: a transport error
ends the operation with `fail` of it, an answer goes on to `k sw1 sw2 resp`. -/
def send (apdu : Apdu) (fail : ScError → α) (k : Nat → Nat → List UInt8 → Prog α) :
    Prog α :=
  .transmit apdu fun
    | .error e => .ret (fail e)
    | .answer sw1 sw2 resp => k sw1 sw2 resp

/-- `sc_file_new()` or `malloc`: on failure the operation returns `fail`. -/
def allocOr (fail : α) (k : Prog α) : Prog α :=
  .alloc fun ok => if ok then k else .ret fail

/-! ## Traces -/

/-- One event of a run: an exchange with the card, or an allocation and its outcome. -/
inductive Event where
  | exchange (apdu : Apdu) (reply : Reply)
  | alloc (ok : Bool)
  deriving DecidableEq, Repr

/-- The commands sent along a list of events. -/
def sent : List Event → List Apdu
  | [] => []
  | .exchange apdu _ :: t => apdu :: sent t
  | .alloc _ :: t => sent t

@[simp] theorem sent_nil : sent [] = [] := rfl

@[simp] theorem sent_exchange (apdu : Apdu) (r : Reply) (t : List Event) :
    sent (.exchange apdu r :: t) = apdu :: sent t := rfl

@[simp] theorem sent_alloc (b : Bool) (t : List Event) :
    sent (.alloc b :: t) = sent t := rfl

@[simp] theorem sent_append (t u : List Event) : sent (t ++ u) = sent t ++ sent u := by
  induction t with
  | nil => rfl
  | cons e t ih => cases e <;> simp [ih]

/-- Along the events `t`, `p` returns `a`. -/
inductive Trace : Prog α → List Event → α → Prop
  | ret (a : α) : Trace (.ret a) [] a
  | transmit {apdu : Apdu} {k : Reply → Prog α} (r : Reply) {t : List Event} {a : α} :
      Trace (k r) t a → Trace (.transmit apdu k) (.exchange apdu r :: t) a
  | alloc {k : Bool → Prog α} (b : Bool) {t : List Event} {a : α} :
      Trace (k b) t a → Trace (.alloc k) (.alloc b :: t) a

/-- `p` returns `a` for some replies of the card and outcomes of the allocations. -/
def Yields (p : Prog α) (a : α) : Prop := ∃ t, Trace p t a

@[simp] theorem trace_ret_iff {a b : α} {t : List Event} :
    Trace (ret a) t b ↔ t = [] ∧ b = a := by
  constructor
  · rintro ⟨⟩; exact ⟨rfl, rfl⟩
  · rintro ⟨rfl, rfl⟩; exact .ret _

@[simp] theorem trace_transmit_iff {apdu : Apdu} {k : Reply → Prog α} {t : List Event}
    {a : α} : Trace (transmit apdu k) t a ↔
      ∃ r t', t = .exchange apdu r :: t' ∧ Trace (k r) t' a := by
  constructor
  · rintro ⟨⟩; exact ⟨_, _, rfl, ‹_›⟩
  · rintro ⟨r, t', rfl, h⟩; exact .transmit r h

@[simp] theorem trace_alloc_iff {k : Bool → Prog α} {t : List Event} {a : α} :
    Trace (alloc k) t a ↔ ∃ b t', t = .alloc b :: t' ∧ Trace (k b) t' a := by
  constructor
  · rintro ⟨⟩; exact ⟨_, _, rfl, ‹_›⟩
  · rintro ⟨b, t', rfl, h⟩; exact .alloc b h

@[simp] theorem not_trace_diverge {t : List Event} {a : α} : ¬ Trace diverge t a := by
  rintro ⟨⟩

/-- A trace of `send` that begins with an answer goes on as the continuation. -/
@[simp] theorem trace_send_answer {apdu apdu' : Apdu} {fail : ScError → α}
    {k : Nat → Nat → List UInt8 → Prog α} {sw1 sw2 : Nat} {resp : List UInt8}
    {t : List Event} {a : α} :
    Trace (send apdu fail k) (.exchange apdu' (.answer sw1 sw2 resp) :: t) a ↔
      apdu' = apdu ∧ Trace (k sw1 sw2 resp) t a := by
  simp only [send, trace_transmit_iff, List.cons.injEq, Event.exchange.injEq]
  constructor
  · rintro ⟨_, _, ⟨⟨rfl, rfl⟩, rfl⟩, h⟩
    exact ⟨rfl, h⟩
  · rintro ⟨rfl, h⟩
    exact ⟨_, _, ⟨⟨rfl, rfl⟩, rfl⟩, h⟩

/-- A trace of `allocOr` whose allocation succeeds goes on as `k`. -/
@[simp] theorem trace_allocOr_true {fail : α} {k : Prog α} {t : List Event} {a : α} :
    Trace (allocOr fail k) (.alloc true :: t) a ↔ Trace k t a := by
  simp [allocOr]

/-- **A trace of a sequence splits into a trace of each part.** -/
theorem trace_bind {p : Prog α} {f : α → Prog β} {t : List Event} {b : β} :
    Trace (p.bind f) t b ↔ ∃ t₁ t₂ a, t = t₁ ++ t₂ ∧ Trace p t₁ a ∧ Trace (f a) t₂ b := by
  induction p generalizing t with
  | ret a =>
    simp only [ret_bind, trace_ret_iff]
    constructor
    · intro h; exact ⟨[], t, a, rfl, ⟨rfl, rfl⟩, h⟩
    · rintro ⟨_, _, _, rfl, ⟨rfl, rfl⟩, h⟩; exact h
  | transmit apdu k ih =>
    simp only [transmit_bind, trace_transmit_iff, ih]
    constructor
    · rintro ⟨r, t', rfl, t₁, t₂, a, rfl, h₁, h₂⟩
      exact ⟨_, t₂, a, rfl, ⟨r, t₁, rfl, h₁⟩, h₂⟩
    · rintro ⟨_, t₂, a, rfl, ⟨r, t₁, rfl, h₁⟩, h₂⟩
      exact ⟨r, _, rfl, t₁, t₂, a, rfl, h₁, h₂⟩
  | alloc k ih =>
    simp only [alloc_bind, trace_alloc_iff, ih]
    constructor
    · rintro ⟨c, t', rfl, t₁, t₂, a, rfl, h₁, h₂⟩
      exact ⟨_, t₂, a, rfl, ⟨c, t₁, rfl, h₁⟩, h₂⟩
    · rintro ⟨_, t₂, a, rfl, ⟨c, t₁, rfl, h₁⟩, h₂⟩
      exact ⟨c, _, rfl, t₁, t₂, a, rfl, h₁, h₂⟩
  | diverge => simp

theorem yields_bind {p : Prog α} {f : α → Prog β} {b : β} :
    Yields (p.bind f) b ↔ ∃ a, Yields p a ∧ Yields (f a) b := by
  simp only [Yields, trace_bind]
  constructor
  · rintro ⟨_, t₁, t₂, a, rfl, h₁, h₂⟩; exact ⟨a, ⟨t₁, h₁⟩, ⟨t₂, h₂⟩⟩
  · rintro ⟨a, ⟨t₁, h₁⟩, ⟨t₂, h₂⟩⟩; exact ⟨_, t₁, t₂, a, rfl, h₁, h₂⟩

@[simp] theorem yields_ret {a b : α} : Yields (ret a) b ↔ b = a := by
  simp [Yields]

theorem yields_map {f : α → β} {p : Prog α} {b : β} :
    Yields (p.map f) b ↔ ∃ a, Yields p a ∧ f a = b := by
  simp [map, yields_bind, eq_comm]

/-! ## Every result -/

/-- Every result of `p` satisfies `P`; a path that does not return imposes nothing. -/
def Always (P : α → Prop) : Prog α → Prop
  | .ret a => P a
  | .transmit _ k => ∀ r, Always P (k r)
  | .alloc k => ∀ b, Always P (k b)
  | .diverge => True

@[simp] theorem always_ret (P : α → Prop) (a : α) : Always P (ret a) ↔ P a := Iff.rfl

@[simp] theorem always_transmit (P : α → Prop) (apdu : Apdu) (k : Reply → Prog α) :
    Always P (transmit apdu k) ↔ ∀ r, Always P (k r) := Iff.rfl

@[simp] theorem always_alloc (P : α → Prop) (k : Bool → Prog α) :
    Always P (alloc k) ↔ ∀ b, Always P (k b) := Iff.rfl

@[simp] theorem always_diverge (P : α → Prop) : Always P (diverge : Prog α) := trivial

theorem always_bind {P : β → Prop} {p : Prog α} {f : α → Prog β} :
    Always P (p.bind f) ↔ Always (fun a => Always P (f a)) p := by
  induction p with
  | ret a => rfl
  | transmit apdu k ih => simp [ih]
  | alloc k ih => simp [ih]
  | diverge => simp

@[simp] theorem always_map {P : β → Prop} {f : α → β} {p : Prog α} :
    Always P (p.map f) ↔ Always (fun a => P (f a)) p := always_bind

@[simp] theorem always_send (P : α → Prop) (apdu : Apdu) (fail : ScError → α)
    (k : Nat → Nat → List UInt8 → Prog α) :
    Always P (send apdu fail k) ↔
      (∀ e, P (fail e)) ∧ ∀ sw1 sw2 resp, Always P (k sw1 sw2 resp) := by
  simp only [send, always_transmit]
  constructor
  · intro h; exact ⟨fun e => h (.error e), fun sw1 sw2 resp => h (.answer sw1 sw2 resp)⟩
  · rintro ⟨h₁, h₂⟩ (e | ⟨sw1, sw2, resp⟩)
    exacts [h₁ e, h₂ sw1 sw2 resp]

@[simp] theorem always_allocOr (P : α → Prop) (fail : α) (k : Prog α) :
    Always P (allocOr fail k) ↔ P fail ∧ Always P k := by
  simp [allocOr, and_comm]

theorem Always.mono {P Q : α → Prop} {p : Prog α} (h : Always P p) (hPQ : ∀ a, P a → Q a) :
    Always Q p := by
  induction p with
  | ret a => exact hPQ a h
  | transmit apdu k ih => exact fun r => ih r (h r)
  | alloc k ih => exact fun b => ih b (h b)
  | diverge => trivial

/-- **`Always` is the statement about every result.** -/
theorem always_iff {P : α → Prop} {p : Prog α} : Always P p ↔ ∀ a, Yields p a → P a := by
  induction p with
  | ret a => simp [Yields]
  | transmit apdu k ih =>
    simp only [always_transmit, ih, Yields, trace_transmit_iff]
    constructor
    · rintro h a ⟨_, r, t', rfl, ht⟩; exact h r a ⟨t', ht⟩
    · rintro h r a ⟨t', ht⟩; exact h a ⟨_, r, t', rfl, ht⟩
  | alloc k ih =>
    simp only [always_alloc, ih, Yields, trace_alloc_iff]
    constructor
    · rintro h a ⟨_, b, t', rfl, ht⟩; exact h b a ⟨t', ht⟩
    · rintro h b a ⟨t', ht⟩; exact h a ⟨_, b, t', rfl, ht⟩
  | diverge => simp [Yields]

@[simp] theorem always_true (p : Prog α) : Always (fun _ => True) p :=
  always_iff.mpr fun _ _ => trivial

/-! ## Every path -/

/-- Every path of `p` satisfies `P`, which sees the events along the path as well as the
result. -/
def AlwaysT : (List Event → α → Prop) → Prog α → Prop
  | P, .ret a => P [] a
  | P, .transmit apdu k => ∀ r, AlwaysT (fun t a => P (.exchange apdu r :: t) a) (k r)
  | P, .alloc k => ∀ b, AlwaysT (fun t a => P (.alloc b :: t) a) (k b)
  | _, .diverge => True

@[simp] theorem alwaysT_ret (P : List Event → α → Prop) (a : α) :
    AlwaysT P (ret a) ↔ P [] a := Iff.rfl

@[simp] theorem alwaysT_diverge (P : List Event → α → Prop) : AlwaysT P (diverge : Prog α) :=
  trivial

/-- **`AlwaysT` is the statement about every trace.** -/
theorem alwaysT_iff {P : List Event → α → Prop} {p : Prog α} :
    AlwaysT P p ↔ ∀ t a, Trace p t a → P t a := by
  induction p generalizing P with
  | ret a => simp [AlwaysT]
  | transmit apdu k ih =>
    simp only [AlwaysT, ih, trace_transmit_iff]
    constructor
    · rintro h _ a ⟨r, t', rfl, ht⟩; exact h r t' a ht
    · rintro h r t' a ht; exact h _ a ⟨r, t', rfl, ht⟩
  | alloc k ih =>
    simp only [AlwaysT, ih, trace_alloc_iff]
    constructor
    · rintro h _ a ⟨b, t', rfl, ht⟩; exact h b t' a ht
    · rintro h b t' a ht; exact h _ a ⟨b, t', rfl, ht⟩
  | diverge => simp [AlwaysT]

theorem AlwaysT.mono {P Q : List Event → α → Prop} {p : Prog α} (h : AlwaysT P p)
    (hPQ : ∀ t a, P t a → Q t a) : AlwaysT Q p :=
  alwaysT_iff.mpr fun t a ht => hPQ t a (alwaysT_iff.mp h t a ht)

/-- A sequence: the trace of `p.bind f` is a trace of `p` followed by one of `f`. -/
theorem alwaysT_bind {P : List Event → β → Prop} {p : Prog α} {f : α → Prog β} :
    AlwaysT P (p.bind f) ↔ AlwaysT (fun t a => AlwaysT (fun u b => P (t ++ u) b) (f a)) p := by
  simp only [alwaysT_iff, trace_bind]
  constructor
  · intro h t a ht u b hu; exact h _ b ⟨t, u, a, rfl, ht, hu⟩
  · rintro h _ b ⟨t, u, a, rfl, ht, hu⟩; exact h t a ht u b hu

@[simp] theorem alwaysT_map {P : List Event → β → Prop} {f : α → β} {p : Prog α} :
    AlwaysT P (p.map f) ↔ AlwaysT (fun t a => P t (f a)) p := by
  simp [map, alwaysT_bind]

@[simp] theorem alwaysT_send (P : List Event → α → Prop) (apdu : Apdu) (fail : ScError → α)
    (k : Nat → Nat → List UInt8 → Prog α) :
    AlwaysT P (send apdu fail k) ↔
      (∀ e, P [.exchange apdu (.error e)] (fail e)) ∧ ∀ sw1 sw2 resp,
        AlwaysT (fun t a => P (.exchange apdu (.answer sw1 sw2 resp) :: t) a) (k sw1 sw2 resp) := by
  simp only [send, AlwaysT]
  constructor
  · intro h; exact ⟨fun e => h (.error e), fun sw1 sw2 resp => h (.answer sw1 sw2 resp)⟩
  · rintro ⟨h₁, h₂⟩ (e | ⟨sw1, sw2, resp⟩)
    exacts [h₁ e, h₂ sw1 sw2 resp]

@[simp] theorem alwaysT_allocOr (P : List Event → α → Prop) (fail : α) (k : Prog α) :
    AlwaysT P (allocOr fail k) ↔ P [.alloc false] fail ∧ AlwaysT (fun t a => P (.alloc true :: t) a) k := by
  simp [allocOr, AlwaysT, and_comm]

/-- A property of the results alone. -/
theorem alwaysT_of_always {P : α → Prop} {p : Prog α} (h : Always P p) :
    AlwaysT (fun _ a => P a) p :=
  alwaysT_iff.mpr fun _ a ht => always_iff.mp h a ⟨_, ht⟩

/-- No path of `p` runs out of fuel. -/
def Total : Prog α → Prop
  | .ret _ => True
  | .transmit _ k => ∀ r, Total (k r)
  | .alloc k => ∀ b, Total (k b)
  | .diverge => False

@[simp] theorem total_ret (a : α) : Total (ret a) := trivial

@[simp] theorem total_transmit (apdu : Apdu) (k : Reply → Prog α) :
    Total (transmit apdu k) ↔ ∀ r, Total (k r) := Iff.rfl

@[simp] theorem total_alloc (k : Bool → Prog α) : Total (alloc k) ↔ ∀ b, Total (k b) :=
  Iff.rfl

@[simp] theorem not_total_diverge : ¬ Total (diverge : Prog α) := id

/-- A sequence is total when its first part is, and the rest is after every result. -/
theorem total_bind {p : Prog α} {f : α → Prog β} :
    Total (p.bind f) ↔ Total p ∧ Always (fun a => Total (f a)) p := by
  induction p with
  | ret a => simp
  | transmit apdu k ih => simp [ih, forall_and]
  | alloc k ih => simp [ih, forall_and]
  | diverge => simp

@[simp] theorem total_send (apdu : Apdu) (fail : ScError → α)
    (k : Nat → Nat → List UInt8 → Prog α) :
    Total (send apdu fail k) ↔ ∀ sw1 sw2 resp, Total (k sw1 sw2 resp) := by
  simp only [send, total_transmit]
  constructor
  · intro h sw1 sw2 resp; exact h (.answer sw1 sw2 resp)
  · rintro h (e | ⟨sw1, sw2, resp⟩)
    exacts [trivial, h sw1 sw2 resp]

@[simp] theorem total_allocOr (fail : α) (k : Prog α) : Total (allocOr fail k) ↔ Total k := by
  simp [allocOr]

/-! ## Stopping at a refusal -/

/-- Whenever a command is answered by a status word that `bad` marks, nothing more is
sent: the operation returns at once, with a result satisfying `E`. -/
def StopsOnRefusal (bad : Apdu → Nat → Nat → Prop) (E : α → Prop) : Prog α → Prop
  | .ret _ => True
  | .transmit apdu k => ∀ r, (∀ sw1 sw2 resp, r = .answer sw1 sw2 resp → bad apdu sw1 sw2 →
      ∃ a, k r = .ret a ∧ E a) ∧ StopsOnRefusal bad E (k r)
  | .alloc k => ∀ b, StopsOnRefusal bad E (k b)
  | .diverge => True

section StopsOnRefusal

variable {bad : Apdu → Nat → Nat → Prop} {E : α → Prop}

@[simp] theorem stopsOnRefusal_ret (a : α) : StopsOnRefusal bad E (ret a) := trivial

@[simp] theorem stopsOnRefusal_allocOr (fail : α) (k : Prog α) :
    StopsOnRefusal bad E (allocOr fail k) ↔ StopsOnRefusal bad E k := by
  simp only [allocOr, StopsOnRefusal]
  constructor
  · intro h; simpa using h true
  · rintro h (_ | _) <;> simp [h]

@[simp] theorem stopsOnRefusal_send (apdu : Apdu) (fail : ScError → α)
    (k : Nat → Nat → List UInt8 → Prog α) :
    StopsOnRefusal bad E (send apdu fail k) ↔ ∀ sw1 sw2 resp,
      (bad apdu sw1 sw2 → ∃ a, k sw1 sw2 resp = .ret a ∧ E a) ∧
        StopsOnRefusal bad E (k sw1 sw2 resp) := by
  simp only [send, StopsOnRefusal]
  constructor
  · intro h sw1 sw2 resp
    exact ⟨(h (.answer sw1 sw2 resp)).1 sw1 sw2 resp rfl, (h (.answer sw1 sw2 resp)).2⟩
  · rintro h (e | ⟨sw1, sw2, resp⟩)
    · refine ⟨?_, trivial⟩
      rintro _ _ _ ⟨⟩
    · refine ⟨?_, (h sw1 sw2 resp).2⟩
      rintro _ _ _ ⟨⟩
      exact (h sw1 sw2 resp).1

/-- A sequence stops at a refusal when its first part does, with a result at which the
rest returns at once, and the rest does after every result of the first. -/
theorem stopsOnRefusal_bind {E' : α → Prop} {p : Prog α} {f : α → Prog β} {E : β → Prop}
    (hp : StopsOnRefusal bad E' p) (hE : ∀ a, E' a → ∃ b, f a = .ret b ∧ E b)
    (hf : Always (fun a => StopsOnRefusal bad E (f a)) p) :
    StopsOnRefusal bad E (p.bind f) := by
  induction p with
  | ret a => exact hf
  | transmit apdu k ih =>
    intro r
    refine ⟨fun sw1 sw2 resp hr hb => ?_, ih r (hp r).2 (hf r)⟩
    obtain ⟨a, hk, ha⟩ := (hp r).1 sw1 sw2 resp hr hb
    obtain ⟨b, hfb, hb⟩ := hE a ha
    exact ⟨b, by simp [hk, hfb], hb⟩
  | alloc k ih => exact fun b => ih b (hp b) (hf b)
  | diverge => trivial

theorem stopsOnRefusal_map {p : Prog α} {f : α → β} {E : β → Prop}
    (h : StopsOnRefusal bad (fun a => E (f a)) p) : StopsOnRefusal bad E (p.map f) :=
  stopsOnRefusal_bind h (fun a ha => ⟨f a, rfl, ha⟩) (always_iff.mpr fun _ _ => trivial)

end StopsOnRefusal

/-! ## The commands a program sends -/

/-- Every command `p` may send satisfies `ok`. -/
def SendsOnly (ok : Apdu → Prop) : Prog α → Prop
  | .ret _ => True
  | .transmit apdu k => ok apdu ∧ ∀ r, SendsOnly ok (k r)
  | .alloc k => ∀ b, SendsOnly ok (k b)
  | .diverge => True

section SendsOnly

variable {ok : Apdu → Prop}

@[simp] theorem sendsOnly_ret (a : α) : SendsOnly ok (ret a) := trivial

@[simp] theorem sendsOnly_allocOr (fail : α) (k : Prog α) :
    SendsOnly ok (allocOr fail k) ↔ SendsOnly ok k := by
  simp only [allocOr, SendsOnly]
  constructor
  · intro h; simpa using h true
  · rintro h (_ | _) <;> simp [h]

@[simp] theorem sendsOnly_send (apdu : Apdu) (fail : ScError → α)
    (k : Nat → Nat → List UInt8 → Prog α) :
    SendsOnly ok (send apdu fail k) ↔ ok apdu ∧ ∀ sw1 sw2 resp, SendsOnly ok (k sw1 sw2 resp) := by
  simp only [send, SendsOnly]
  constructor
  · intro h; exact ⟨h.1, fun sw1 sw2 resp => h.2 (.answer sw1 sw2 resp)⟩
  · rintro ⟨h₁, h₂⟩
    exact ⟨h₁, fun | .error _ => trivial | .answer sw1 sw2 resp => h₂ sw1 sw2 resp⟩

theorem sendsOnly_ite {c : Prop} [Decidable c] {p q : Prog α} (hp : c → SendsOnly ok p)
    (hq : ¬ c → SendsOnly ok q) : SendsOnly ok (if c then p else q) := by
  split_ifs with h
  exacts [hp h, hq h]

theorem sendsOnly_bind {p : Prog α} {f : α → Prog β} (hp : SendsOnly ok p)
    (hf : ∀ a, SendsOnly ok (f a)) : SendsOnly ok (p.bind f) := by
  induction p with
  | ret a => exact hf a
  | transmit apdu k ih => exact ⟨hp.1, fun r => ih r (hp.2 r)⟩
  | alloc k ih => exact fun b => ih b (hp b)
  | diverge => trivial

@[simp] theorem sendsOnly_map {p : Prog α} {f : α → β} :
    SendsOnly ok (p.map f) ↔ SendsOnly ok p := by
  induction p with
  | ret a => simp [map, SendsOnly]
  | transmit apdu k ih => simp only [map, transmit_bind, SendsOnly] at ih ⊢; simp only [ih]
  | alloc k ih => simp only [map, alloc_bind, SendsOnly] at ih ⊢; simp only [ih]
  | diverge => simp [map, SendsOnly]

end SendsOnly

/-! ## Runs against a card -/

/-- A card whose moves are `step` goes from `s` to `s'` answering the exchanges of `t`:
`step s apdu r s'` says that in state `s` it may answer `apdu` with `r` (a transport
error included) and be in state `s'` afterwards. -/
def Follows {σ : Type} (step : σ → Apdu → Reply → σ → Prop) : σ → List Event → σ → Prop
  | s, [], s' => s' = s
  | s, .exchange apdu r :: t, s' => ∃ s₁, step s apdu r s₁ ∧ Follows step s₁ t s'
  | s, .alloc _ :: t, s' => Follows step s t s'

@[simp] theorem follows_nil {σ : Type} {step : σ → Apdu → Reply → σ → Prop} {s s' : σ} :
    Follows step s [] s' ↔ s' = s := Iff.rfl

@[simp] theorem follows_exchange {σ : Type} {step : σ → Apdu → Reply → σ → Prop} {s s' : σ}
    {apdu : Apdu} {r : Reply} {t : List Event} :
    Follows step s (.exchange apdu r :: t) s' ↔ ∃ s₁, step s apdu r s₁ ∧ Follows step s₁ t s' :=
  Iff.rfl

@[simp] theorem follows_alloc {σ : Type} {step : σ → Apdu → Reply → σ → Prop} {s s' : σ}
    {b : Bool} {t : List Event} : Follows step s (.alloc b :: t) s' ↔ Follows step s t s' :=
  Iff.rfl

theorem follows_append {σ : Type} {step : σ → Apdu → Reply → σ → Prop} {s s' : σ}
    {t u : List Event} :
    Follows step s (t ++ u) s' ↔ ∃ s₁, Follows step s t s₁ ∧ Follows step s₁ u s' := by
  induction t generalizing s with
  | nil => simp [Follows]
  | cons e t ih =>
    cases e with
    | exchange apdu r =>
      simp only [List.cons_append, Follows, List.append_eq, ih]
      constructor
      · rintro ⟨s₂, h₂, s₁, h₁, h⟩; exact ⟨s₁, ⟨s₂, h₂, h₁⟩, h⟩
      · rintro ⟨s₁, ⟨s₂, h₂, h₁⟩, h⟩; exact ⟨s₂, h₂, s₁, h₁, h⟩
    | alloc b => simp only [List.cons_append, Follows, List.append_eq, ih]

/-! ## Triples against a card -/

/-- `⦃P⦄ p ⦃Q⦄` against a card whose moves are `step`: along every path of `p`, a card
that starts in a state satisfying `P` and answers as `step` allows ends in a state that
satisfies `Q` with the result. -/
def Hoare {σ : Type} (step : σ → Apdu → Reply → σ → Prop) (P : σ → Prop) (p : Prog α)
    (Q : α → σ → Prop) : Prop :=
  AlwaysT (fun t a => ∀ s s', P s → Follows step s t s' → Q a s') p

section Hoare

variable {σ : Type} {step : σ → Apdu → Reply → σ → Prop}

theorem hoare_ret {P : σ → Prop} {a : α} {Q : α → σ → Prop} (h : ∀ s, P s → Q a s) :
    Hoare step P (ret a) Q :=
  fun s s' hs (ht : s' = s) => ht ▸ h s hs

theorem Hoare.conseq {P P' : σ → Prop} {p : Prog α} {Q Q' : α → σ → Prop}
    (h : Hoare step P p Q) (hP : ∀ s, P' s → P s) (hQ : ∀ a s, Q a s → Q' a s) :
    Hoare step P' p Q' :=
  AlwaysT.mono h fun _ a h s s' hs ht => hQ a s' (h s s' (hP s hs) ht)

/-- **Sequencing**: the post-condition of the first part is the pre-condition of the
rest. -/
theorem hoare_bind {P : σ → Prop} {p : Prog α} {R : α → σ → Prop} {f : α → Prog β}
    {Q : β → σ → Prop} (hp : Hoare step P p R) (hf : ∀ a, Hoare step (R a) (f a) Q) :
    Hoare step P (p.bind f) Q := by
  refine alwaysT_bind.mpr (AlwaysT.mono hp fun t a h => ?_)
  refine AlwaysT.mono (hf a) fun u b hu s s' hs htu => ?_
  obtain ⟨s₁, ht, hu'⟩ := follows_append.mp htu
  exact hu s₁ s' (h s s₁ hs ht) hu'

theorem hoare_map {P : σ → Prop} {p : Prog α} {f : α → β} {Q : β → σ → Prop}
    (h : Hoare step P p fun a => Q (f a)) : Hoare step P (p.map f) Q :=
  hoare_bind h fun _ => hoare_ret fun _ h => h

/-- One command: the card moves on the transport error or on the answer. -/
theorem hoare_send {P : σ → Prop} {apdu : Apdu} {fail : ScError → α}
    {k : Nat → Nat → List UInt8 → Prog α} {Q : α → σ → Prop}
    (he : ∀ e s s₁, P s → step s apdu (.error e) s₁ → Q (fail e) s₁)
    (hk : ∀ sw1 sw2 resp,
      Hoare step (fun s₁ => ∃ s, P s ∧ step s apdu (.answer sw1 sw2 resp) s₁) (k sw1 sw2 resp) Q) :
    Hoare step P (send apdu fail k) Q := by
  refine (alwaysT_send _ _ _ _).mpr ⟨fun e s s' hs ht => ?_, fun sw1 sw2 resp => ?_⟩
  · obtain ⟨s₁, h₁, rfl⟩ := ht
    exact he e s _ hs h₁
  · exact AlwaysT.mono (hk sw1 sw2 resp) fun t a h s s' hs ⟨s₁, h₁, ht⟩ => h s₁ s' ⟨s, hs, h₁⟩ ht

theorem hoare_allocOr {P : σ → Prop} {fail : α} {k : Prog α} {Q : α → σ → Prop}
    (hfail : ∀ s, P s → Q fail s) (hk : Hoare step P k Q) : Hoare step P (allocOr fail k) Q :=
  (alwaysT_allocOr _ _ _).mpr ⟨fun s _ hs (ht : _ = s) => ht ▸ hfail s hs,
    AlwaysT.mono hk fun _ _ h s s' hs ht => h s s' hs ht⟩

/-- **A program whose commands all keep `I` keeps `I`.** -/
theorem hoare_of_sendsOnly {ok : Apdu → Prop} {I : σ → Prop} {p : Prog α} {Q : α → σ → Prop}
    (hI : ∀ s apdu r s', ok apdu → step s apdu r s' → I s → I s') (hp : SendsOnly ok p)
    (hq : Always (fun a => ∀ s, I s → Q a s) p) : Hoare step I p Q := by
  induction p with
  | ret a => exact hoare_ret hq
  | transmit apdu k ih =>
    exact fun r => AlwaysT.mono (ih r (hp.2 r) (hq r)) fun t a h s s' hs ⟨s₁, h₁, ht⟩ =>
      h s₁ s' (hI s apdu r s₁ hp.1 h₁ hs) ht
  | alloc k ih => exact fun b => ih b (hp b) (hq b)
  | diverge => trivial

/-- A triple read on one trace. -/
theorem Hoare.trace {P : σ → Prop} {p : Prog α} {Q : α → σ → Prop} (h : Hoare step P p Q)
    {t : List Event} {a : α} (ht : Trace p t a) {s s' : σ} (hs : P s)
    (hf : Follows step s t s') : Q a s' :=
  alwaysT_iff.mp h t a ht s s' hs hf

end Hoare

/-- Run `p` against a card that answers deterministically, with every allocation
succeeding: the result, the card's final state and the events, or `none` when the fuel
runs out. -/
def run {σ : Type} (card : σ → Apdu → σ × Reply) : Prog α → σ → Option α × σ × List Event
  | .ret a, s => (some a, s, [])
  | .transmit apdu k, s =>
    let y := (k (card s apdu).2).run card (card s apdu).1
    (y.1, y.2.1, .exchange apdu (card s apdu).2 :: y.2.2)
  | .alloc k, s =>
    let y := (k true).run card s
    (y.1, y.2.1, .alloc true :: y.2.2)
  | .diverge, s => (none, s, [])

/-- **A run follows the card it runs against.** -/
theorem follows_run {σ : Type} {step : σ → Apdu → Reply → σ → Prop}
    {card : σ → Apdu → σ × Reply} (hcard : ∀ s apdu, step s apdu (card s apdu).2 (card s apdu).1)
    (p : Prog α) (s : σ) : Follows step s (p.run card s).2.2 (p.run card s).2.1 := by
  induction p generalizing s with
  | ret a => rfl
  | transmit apdu k ih => exact ⟨_, hcard s apdu, ih _ _⟩
  | alloc k ih => exact ih _ _
  | diverge => rfl

/-- **A run that returns is a trace.** -/
theorem trace_of_run {σ : Type} (card : σ → Apdu → σ × Reply) {p : Prog α} {s : σ} {a : α}
    (h : (p.run card s).1 = some a) : Trace p (p.run card s).2.2 a := by
  induction p generalizing s with
  | ret b =>
    simp only [run, Option.some.injEq] at h
    exact h ▸ .ret b
  | transmit apdu k ih => exact .transmit _ (ih _ h)
  | alloc k ih => exact .alloc _ (ih _ h)
  | diverge => simp [run] at h

/-- A run of `p.bind f` ends as the run of `f` from where the run of `p` stopped, or
stops with it. -/
theorem run_bind {σ : Type} (card : σ → Apdu → σ × Reply) (p : Prog α) (f : α → Prog β)
    (s : σ) :
    (((p.bind f).run card s).1, ((p.bind f).run card s).2.1) =
      match (p.run card s).1 with
      | some a => (((f a).run card (p.run card s).2.1).1, ((f a).run card (p.run card s).2.1).2.1)
      | none => (none, (p.run card s).2.1) := by
  induction p generalizing s with
  | ret a => rfl
  | transmit apdu k ih => exact ih _ _
  | alloc k ih => exact ih _ _
  | diverge => rfl

end Prog

end StarcosDriver

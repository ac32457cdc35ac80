import VSwitch.Endpoint
import VSwitch.Miss
import VSwitch.Proofs.Outcome

/-!
# Keeping what a consumer is called with

To say which messages a dump hands to its consumer, the consumer is made to keep them. It does so in
a state of its own, so that nothing else about the dump is changed.

* `VSwitch.recording` is a consumer that keeps what it is called with;
* `VSwitch.Shadows` says that a computation does what another one does and keeps something besides;
* `VSwitch.Endpoint.outcome_dump_recording`: a dump is not changed by a consumer that keeps what it
  is called with;
* `VSwitch.MissConsumer.recording` is the like for a consumer of misses.
-/

namespace VSwitch

section

variable {τ : Type}

/-- A consumer that keeps what it is called with, in order. -/
def recording (consume : Bytes → Act τ Unit) (message : Bytes) : Act (τ × List Bytes) Unit := do
  Act.onSecond (modify (· ++ [message]))
  Act.onFirst (consume message)

theorem outcome_recording (consume : Bytes → Act τ Unit) (message : Bytes) (t : τ)
    (calls : List Bytes) : Act.outcome (recording consume message) (t, calls) =
      ((Act.outcome (consume message) t).1, (Act.outcome (consume message) t).2,
        calls ++ [message]) := by
  rw [recording, Act.outcome_bind, Act.outcome_onSecond, Act.outcome_modify]
  exact Act.outcome_onFirst _ _ _

/-- Called with messages one after the other, it keeps those up to the one that it fails on. -/
theorem exists_outcome_forM_recording (consume : Bytes → Act τ Unit) (messages : List Bytes) (t : τ)
    (calls : List Bytes) :
    ∃ n, (Act.outcome (messages.forM (recording consume)) (t, calls)).2.2 =
      calls ++ messages.take n := by
  induction messages generalizing t calls with
  | nil => exact ⟨0, by simp [List.forM]⟩
  | cons message rest ih =>
    have hforM : (message :: rest).forM (recording consume) = (do
        recording consume message
        rest.forM (recording consume)) := rfl
    rw [hforM, Act.outcome_bind, outcome_recording]
    rcases Act.outcome (consume message) t with ⟨_ | _, t'⟩
    · exact ⟨1, by simp⟩
    · obtain ⟨n, hn⟩ := ih t' (calls ++ [message])
      exact ⟨n + 1, by simpa using hn⟩

end

/-! ### Keeping something besides -/

section Shadows

variable {τ ρ α β : Type}

/-- Over a state with an additional part, `shadow` does what `act` does. -/
def Shadows (shadow : Act ((τ × ρ) × Endpoint) α) (act : Act (τ × Endpoint) α) : Prop :=
  ∀ t r e, ∃ r', Act.outcome shadow ((t, r), e) = ((Act.outcome act (t, e)).1,
    ((Act.outcome act (t, e)).2.1, r'), (Act.outcome act (t, e)).2.2)

namespace Shadows

theorem pure (a : α) : Shadows (pure a : Act ((τ × ρ) × Endpoint) α) (Pure.pure a) :=
  fun _ r _ => ⟨r, rfl⟩

theorem onSecond (act : Act Endpoint α) :
    Shadows (Act.onSecond act : Act ((τ × ρ) × Endpoint) α) (Act.onSecond act) :=
  fun _ r _ => ⟨r, rfl⟩

theorem bind {shadow : Act ((τ × ρ) × Endpoint) α} {act : Act (τ × Endpoint) α}
    {next : α → Act ((τ × ρ) × Endpoint) β} {next' : α → Act (τ × Endpoint) β}
    (h : Shadows shadow act) (hnext : ∀ a, Shadows (next a) (next' a)) :
    Shadows (shadow >>= next) (act >>= next') := by
  intro t r e
  obtain ⟨r', hr⟩ := h t r e
  rw [Act.outcome_bind, Act.outcome_bind, hr]
  rcases Act.outcome act (t, e) with ⟨_ | a, t', e'⟩
  · exact ⟨r', rfl⟩
  · exact hnext a t' r' e'

variable {shadow : Bytes → Act ((τ × ρ) × Endpoint) (Option α)}
  {judge : Bytes → Act (τ × Endpoint) (Option α)}

theorem walk (h : ∀ m, Shadows (shadow m) (judge m)) (messages : List Bytes)
    (ending : Option DecodeError) :
    Shadows (VSwitch.walk shadow messages ending) (VSwitch.walk judge messages ending) := by
  induction messages with
  | nil => cases ending <;> exact fun _ r _ => ⟨r, rfl⟩
  | cons message rest ih =>
    refine bind (h message) fun decided => ?_
    cases decided with
    | none => exact ih
    | some a => exact pure (some a)

theorem exchangeFrom (h : ∀ m, Shadows (shadow m) (judge m)) (arrivals : List Arrival) :
    Shadows (Endpoint.exchangeFrom shadow arrivals) (Endpoint.exchangeFrom judge arrivals) := by
  induction arrivals with
  | nil => exact onSecond _
  | cons a rest ih =>
    refine bind (onSecond _) fun datagram => bind (walk h _ _) fun decided => ?_
    cases decided with
    | none => exact ih
    | some a => exact pure a

theorem exchange (h : ∀ m, Shadows (shadow m) (judge m)) :
    Shadows (Endpoint.exchange shadow) (Endpoint.exchange judge) :=
  fun t r e => exchangeFrom h e.link.inbox t r e

end Shadows

end Shadows

namespace Endpoint

variable {τ : Type}

theorem shadows_part (consume : Bytes → Act τ Unit) (sequence : UInt32) (message : Bytes) :
    Shadows (part (recording consume) sequence message) (part consume sequence message) := by
  refine Shadows.bind (Shadows.onSecond _) fun relevance => ?_
  cases relevance with
  | answer h =>
    simp only
    split
    · exact Shadows.pure _
    · refine Shadows.bind ?_ fun _ => Shadows.pure _
      intro t r e
      exact ⟨r ++ [message], by rw [Act.outcome_onFirst, outcome_recording]; rfl⟩
  | stray h => exact Shadows.bind (fun _ r _ => ⟨r, rfl⟩) fun _ => Shadows.pure _

/-- **Keeping the calls changes nothing**: with and without it a dump has the same result and leaves
the same state of the consumer and the same endpoint. -/
theorem outcome_dump_recording (draft : Draft) (consume : Bytes → Act τ Unit) (t : τ)
    (calls : List Bytes) (e : Endpoint) :
    ∃ calls', Act.outcome (dump draft (recording consume)) ((t, calls), e) =
      ((Act.outcome (dump draft consume) (t, e)).1,
        ((Act.outcome (dump draft consume) (t, e)).2.1, calls'),
        (Act.outcome (dump draft consume) (t, e)).2.2) :=
  Shadows.bind (Shadows.onSecond _) (fun sequence =>
    Shadows.exchange (shadows_part consume sequence)) t calls e

end Endpoint

/-! ### Consumers of misses -/

namespace MissConsumer

/-- A call of a consumer of misses. -/
inductive Call
  /-- It was handed a miss. -/
  | take (miss : Miss)
  /-- It was told of a failure. -/
  | report (e : Failure) (fatal : Bool)
  deriving DecidableEq

variable {σ : Type} (consumer : MissConsumer σ)

/-- A consumer that keeps what it is called with, in order. -/
def recording : MissConsumer (List Call × σ) where
  take miss := do
    Act.onFirst (modify (· ++ [.take miss]))
    Act.onSecond (consumer.take miss)
  report e fatal := fun (calls, s) => ((), calls ++ [.report e fatal], (consumer.report e fatal s).2)

theorem outcome_take_recording (miss : Miss) (calls : List Call) (s : σ) :
    Act.outcome (consumer.recording.take miss) (calls, s) =
      ((Act.outcome (consumer.take miss) s).1, calls ++ [.take miss],
        (Act.outcome (consumer.take miss) s).2) := by
  rw [recording, Act.outcome_bind, Act.outcome_onFirst, Act.outcome_modify]
  exact Act.outcome_onSecond _ _ _

end MissConsumer

end VSwitch

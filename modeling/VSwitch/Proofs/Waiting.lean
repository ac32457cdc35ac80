import Mathlib
import VSwitch.Kernel.Client
import VSwitch.Proofs.Resolution

/-!
# How long a request waits

Whoever opens a socket for requests may limit how long each of them waits for a datagram. The limit
is a span of time, and what the system takes is a number of seconds and a number of microseconds,
of which two zeros stand for no limit. The microseconds are whole ones and the seconds are signed,
so a span below a microsecond is taken for no limit at all, and one of more seconds than there are
signed numbers goes below zero. All other spans are told as they are.

* `VSwitch.TimeValue.Tells` says what a limit tells of a span, and `VSwitch.TimeValue.tells` that
  every limit is made like that;
* `VSwitch.Kernel.limits` are the limits that the system has been told, and
  `VSwitch.Kernel.Limits` says of a computation that it opens a socket and limits it once;
* `VSwitch.Client.waits_as_told` is the result, and `VSwitch.Client.waits_for_ever` shows two spans
  that are lost.
-/

namespace VSwitch

/-! ### What a limit tells -/

namespace Duration

/-- The span is over within less than a microsecond. -/
def IsBrief (d : Duration) : Prop := d.toNanos < 1000

/-- The span has more seconds than a signed number of 64 bits can tell. -/
def IsVast (d : Duration) : Prop := 2 ^ 63 ≤ d.seconds.toNat

instance (d : Duration) : Decidable d.IsBrief := inferInstanceAs (Decidable (_ < _))

instance (d : Duration) : Decidable d.IsVast := inferInstanceAs (Decidable (_ ≤ _))

end Duration

namespace TimeValue

/-- The microseconds that a limit stands for. -/
def toMicros (v : TimeValue) : Int := v.seconds.toInt * 1000000 + v.micros.toNat

/-- What a limit tells of a span, or of none. -/
structure Tells (v : TimeValue) (timeout? : Option Duration) : Prop where
  /-- The microseconds make less than a second. -/
  micros_lt : v.micros.toNat < 1000000
  /-- There is no limit without a span, and none for a brief one. -/
  eq_unlimited_iff : v = unlimited ↔ ∀ d, timeout? = some d → d.IsBrief
  /-- The seconds are negative for vast spans only. -/
  seconds_nonneg_iff : 0 ≤ v.seconds.toInt ↔ ∀ d, timeout? = some d → ¬ d.IsVast
  /-- The limit is the span in whole microseconds, but for what is lost of a vast one. -/
  toMicros_eq : ∀ d, timeout? = some d →
    v.toMicros = (d.toNanos / 1000 : Nat) - if d.IsVast then 2 ^ 64 * 1000000 else 0

/-- Taken as signed, a number of seconds is itself, or it is less by all there are. -/
theorem toInt_toInt64 (n : UInt64) :
    n.toInt64.toInt = n.toNat - if 2 ^ 63 ≤ n.toNat then 2 ^ 64 else 0 := by
  rw [← Int64.toInt_toBitVec, UInt64.toBitVec_toInt64, BitVec.toInt_eq_toNat_cond,
    UInt64.toNat_toBitVec]
  split <;> split <;> omega

theorem toNat_micros (d : Duration) :
    (UInt32.ofNat (d.nanoseconds.val / 1000)).toNat = d.nanoseconds.val / 1000 := by
  have hlt := d.nanoseconds.isLt
  exact UInt32.toNat_ofNat_of_lt' (by simp only [UInt32.size]; omega)

theorem eq_unlimited_iff {v : TimeValue} : v = unlimited ↔ v.seconds.toInt = 0 ∧
    v.micros.toNat = 0 := by
  obtain ⟨seconds, micros⟩ := v
  rw [unlimited, mk.injEq, ← Int64.toInt_inj, ← UInt32.toNat_inj]
  rfl

/-- **Every limit is made like that.** -/
theorem tells (timeout? : Option Duration) : (ofDuration timeout?).Tells timeout? := by
  cases timeout? with
  | none =>
    have hnever : ∀ P : Duration → Prop, ∀ d, none = some d → P d := by
      intro P d h
      cases h
    exact ⟨by decide, iff_of_true rfl (hnever _), iff_of_true (by decide) (hnever _), hnever _⟩
  | some d =>
    have hseconds := toInt_toInt64 d.seconds
    have hmicros := toNat_micros d
    have hlt := d.nanoseconds.isLt
    have hbound := d.seconds.toNat_lt
    refine ⟨?_, ?_, ?_, ?_⟩
    · rw [ofDuration, hmicros]
      omega
    · simp only [Option.some.injEq, forall_eq', eq_unlimited_iff, ofDuration, hmicros, hseconds,
        Duration.IsBrief, Duration.toNanos]
      split <;> omega
    · simp only [Option.some.injEq, forall_eq', ofDuration, hseconds, Duration.IsVast]
      split <;> omega
    · simp only [Option.some.injEq, forall_eq', toMicros, ofDuration, hmicros, hseconds,
        Duration.IsVast, Duration.toNanos]
      split <;> omega

end TimeValue

/-! ### Limits in the record -/

/-- The limit that a call in the record has told the system, with its socket. -/
def Deed.limit? : Deed → Option (Nat × TimeValue)
  | .done (.limit socket time) => some (socket, time)
  | _ => none

namespace Kernel

/-- The limits that the system has been told, the latest first. -/
def limits (k : Kernel) : List (Nat × TimeValue) := k.deeds.filterMap Deed.limit?

theorem limits_close (d : Descriptor) (k : Kernel) : (close d k).2.limits = k.limits := by
  cases d <;> rfl

end Kernel

open Kernel (Sys limits)

section Leaving

variable {ε σ ν α β : Type} {view : σ → ν}

/-- Whatever becomes of it, a computation leaves as it is what `view` shows of the state. -/
def Leaves (view : σ → ν) (x : ExceptT ε (StateM σ) α) : Prop := ∀ s, view (x.run s).2 = view s

namespace Leaves

theorem bind {x : ExceptT ε (StateM σ) α} {f : α → ExceptT ε (StateM σ) β}
    (hx : Leaves view x) (hf : ∀ a, Leaves view (f a)) : Leaves view (x >>= f) := by
  intro s
  have hfirst := hx s
  rw [run_bind]
  generalize x.run s = first at hfirst ⊢
  obtain ⟨e | a, t⟩ := first
  · exact hfirst
  · exact (hf a t).trans hfirst

theorem ask (kind : CallKind) {call : SystemCall} (h : (Deed.done call).limit? = none) :
    Leaves limits (Kernel.ask kind call) := by
  intro k
  rw [Kernel.run_ask]
  split
  · exact List.filterMap_cons_none h
  · exact List.filterMap_cons_none rfl

theorem act {x : Sys α} (h : Leaves limits x) : Leaves limits x.act := h

theorem undoing {d : Descriptor} {x : Act Kernel α} (h : Leaves limits x) :
    Leaves limits (Act.undoing (Kernel.close d) x) := by
  intro k
  have hx : limits (Act.outcome x k).2 = k.limits := h k
  change limits (Act.outcome (Act.undoing (Kernel.close d) x) k).2 = k.limits
  rw [Act.outcome_undoing]
  generalize Act.outcome x k = outcome at hx ⊢
  obtain ⟨e | a, k'⟩ := outcome
  · exact (Kernel.limits_close d k').trans hx
  · exact hx

end Leaves

end Leaving

namespace Kernel

theorem leaves_openSocket (domain : AddressFamily) (protocol : Int32) :
    Leaves limits (openSocket domain protocol) :=
  .bind (fun _ => rfl) fun _ => .bind (.ask _ rfl) fun _ => .bind (fun _ => rfl) fun _ _ => rfl

theorem leaves_joinEach (number : Nat) (groups : List UInt32) :
    Leaves limits (joinEach number groups) := by
  induction groups with
  | nil => exact fun _ => rfl
  | cons group rest ih => exact .bind (.ask _ rfl) fun _ => ih

theorem leaves_bind (number : Nat) (port : UInt32) : Leaves limits (bind number port) := by
  refine .bind (.ask _ rfl) fun _ k => ?_
  split <;> rfl

theorem leaves_portOf (number : Nat) : Leaves limits (portOf number) :=
  .bind (.ask _ rfl) fun _ _ => rfl

theorem leaves_connect (protocol : Int32) (port? : Option UInt32) (groups : Groups) :
    Leaves limits (connect protocol port? groups) := by
  refine .bind (.act (leaves_openSocket _ _)) fun number => .undoing (.bind ?_ fun _ _ => rfl)
  exact .act (.bind (leaves_bind number _) fun _ => leaves_joinEach number _)

/-- A probe sets no limit. -/
theorem limits_probe (k : Kernel) : (probe k).2.limits = k.limits := by
  obtain ⟨deeds, hprobe, hdeeds, -⟩ := exists_probe k
  -- A socket is opened, asked and closed, if anything is done at all.
  have hnone : deeds.filterMap Deed.limit? = [] := by
    split at hprobe
    · rw [hprobe, List.filterMap_nil]
    · cases hprobe with
      | unopened socket => rfl
      | opened socket asked h => rcases h with rfl | rfl <;> rfl
  rw [limits, hdeeds, List.filterMap_append, List.filterMap_reverse, hnone]
  rfl

end Kernel

/-! ### What a connection leaves alone -/

namespace Connection

/-- The socket of a connection, and the limits that the system has been told. -/
def standing (s : Connection × Kernel) : Nat × List (Nat × TimeValue) := (s.1.socket, s.2.limits)

/-- What is exchanged over a connection are messages. -/
theorem leaves_run {α : Type} (act : Act Endpoint α) :
    Leaves standing (run act : Act (Connection × Kernel) α) := by
  rintro ⟨c, k⟩
  -- The record gets what the link has sent and received, and nothing else.
  have hnone : ∀ call, (Kernel.deedOf c.socket call).bind Deed.limit? = none := by
    rintro (⟨message, _ | _ | _⟩ | _) <;> rfl
  have hdeeds : ((run act : Act (Connection × Kernel) α).run (c, k)).2.2.deeds =
      (Act.outcome act (c.endpoint k)).2.link.calls.filterMap (Kernel.deedOf c.socket) ++
        k.deeds := rfl
  rw [standing, standing, limits, hdeeds, List.filterMap_append, List.filterMap_filterMap,
    List.filterMap_eq_nil_iff.2 fun call _ => hnone call]
  rfl

theorem leaves_resolve (autoload : Bool) (name : String) :
    Leaves standing (resolve autoload name : Act (Connection × Kernel) Family) := by
  intro s
  have hlook : ∀ t, standing (look name t).2 = standing t := leaves_run (Family.lookup name)
  change standing (Act.outcome (resolve autoload name) s).2 = standing s
  rw [Resolution.outcome_connectionResolve]
  have hfirst := hlook s
  generalize look name s = first at hfirst ⊢
  obtain ⟨r, c, k⟩ := first
  simp only
  split
  · rw [hlook, ← hfirst, standing, standing, Kernel.limits_probe]
  · exact hfirst

end Connection

/-! ### Sockets with a limit -/

namespace Kernel

variable {ε α β : Type} {time : TimeValue} {socket : α → Nat} {socket' : β → Nat}

/-- How a computation that opens a socket may end. If it gives a value, the system has been told one
limit, for the socket of this value; if it fails, at most one. -/
inductive Limited (time : TimeValue) (socket : α → Nat) (k : Kernel) : Except ε α × Kernel → Prop
  /-- There is a socket with a limit. -/
  | value {a : α} {k' : Kernel} (h : k'.limits = (socket a, time) :: k.limits) :
    Limited time socket k (.ok a, k')
  /-- It fails before there is a limit. -/
  | before {e : ε} {k' : Kernel} (h : k'.limits = k.limits) : Limited time socket k (.error e, k')
  /-- It fails when there is a limit already. -/
  | behind {e : ε} {k' : Kernel} (number : Nat) (h : k'.limits = (number, time) :: k.limits) :
    Limited time socket k (.error e, k')

/-- A computation opens a socket and limits how long it waits, whatever becomes of its system
calls. -/
def Limits (time : TimeValue) (socket : α → Nat) (x : ExceptT ε (StateM Kernel) α) : Prop :=
  ∀ k, Limited time socket k (x.run k)

/-- What is done before tells no limit. -/
theorem Limits.bind_left {x : ExceptT ε (StateM Kernel) β} {f : β → ExceptT ε (StateM Kernel) α}
    (hx : Leaves limits x) (hf : ∀ b, Limits time socket (f b)) :
    Limits time socket (x >>= f) := by
  intro k
  have hfirst := hx k
  rw [run_bind]
  generalize x.run k = first at hfirst ⊢
  obtain ⟨e | b, k'⟩ := first
  · exact .before hfirst
  · have hsecond := hf b k'
    simp only
    generalize (f b).run k' = second at hsecond ⊢
    cases hsecond with
    | value h => exact .value (h.trans (congrArg _ hfirst))
    | before h => exact .before (h.trans hfirst)
    | behind number h => exact .behind number (h.trans (congrArg _ hfirst))

/-- What is done afterwards tells no limit, and what it gives is about the same socket. -/
theorem Limits.bind_right {x : ExceptT ε (StateM Kernel) α} {f : α → ExceptT ε (StateM Kernel) β}
    (hx : Limits time socket x) (hf : ∀ a, Leaves limits (f a))
    (hsocket : ∀ a k b, ((f a).run k).1 = .ok b → socket' b = socket a) :
    Limits time socket' (x >>= f) := by
  intro k
  have hfirst := hx k
  rw [run_bind]
  generalize x.run k = first at hfirst ⊢
  cases hfirst with
  | before h => exact .before h
  | behind number h => exact .behind number h
  | @value a k' h =>
    have hsecond := hf a k'
    have hsame := hsocket a k'
    simp only
    generalize (f a).run k' = second at hsecond hsame ⊢
    obtain ⟨e | b, k''⟩ := second
    · exact .behind _ (hsecond.trans h)
    · refine .value (hsecond.trans h |>.trans ?_)
      rw [hsame b rfl]

theorem Limits.undoing {d : Descriptor} {x : Act Kernel α} (h : Limits time socket x) :
    Limits time socket (Act.undoing (close d) x) := by
  intro k
  have hx : Limited time socket k (Act.outcome x k) := h k
  change Limited time socket k (Act.outcome (Act.undoing (close d) x) k)
  rw [Act.outcome_undoing]
  generalize Act.outcome x k = outcome at hx ⊢
  cases hx with
  | value h => exact .value h
  | before h => exact .before ((limits_close d _).trans h)
  | behind number h => exact .behind number ((limits_close d _).trans h)

theorem Limits.act {x : Sys α} (h : Limits time socket x) : Limits time socket x.act := by
  intro k
  have hrun : (Sys.act x).run k = ((x.run k).1.mapError fun errno => .socket (.system errno),
    (x.run k).2) := rfl
  have hx := h k
  rw [hrun]
  generalize x.run k = outcome at hx ⊢
  cases hx with
  | value h => exact .value h
  | before h => exact .before h
  | behind number h => exact .behind number h

theorem limits_limitReceive (number : Nat) (timeout? : Option Duration) :
    Limits (.ofDuration timeout?) (fun _ => number) (limitReceive number timeout?) := by
  intro k
  rw [limitReceive, run_ask]
  split
  · exact .value rfl
  · exact .before rfl

end Kernel

open Kernel (Limits)

theorem Connection.limits_connect (groups : Groups) (timeout? : Option Duration)
    (bufferLength : Nat) :
    Limits (.ofDuration timeout?) Connection.socket (connect groups timeout? bufferLength) := by
  refine .bind_left (Kernel.leaves_connect _ _ _) fun number => .undoing ?_
  refine .bind_right (.act (Kernel.limits_limitReceive number timeout?)) (fun _ => ?_) ?_
  · exact .bind (.act (Kernel.leaves_portOf number)) fun _ _ => rfl
  · intro _ k c hc
    obtain ⟨port, k', -, hdone⟩ := run_bind_eq_ok_iff.1 hc
    cases hdone
    rfl

theorem Families.leaves_resolve {σ ν : Type} {view : σ → ν} {resolve : String → Act σ Family}
    (h : ∀ name, Leaves view (resolve name)) : Leaves view (Families.resolve resolve) :=
  .bind (h _) fun _ => .bind (h _) fun _ => .bind (h _) fun _ => .bind (h _) fun _ _ => rfl

namespace Client

theorem limits_dial (config : Config) :
    Limits (.ofDuration config.receiveTimeout?) Connection.socket (dial config) :=
  Connection.limits_connect _ _ _

/-- Resolving its families tells no limit, and the client has the socket that they are resolved
over. -/
theorem limits_connect (config : Config) :
    Limits (.ofDuration config.receiveTimeout?) (fun c : Client => c.connection.socket)
      (connect config) := by
  have hresolve : Leaves Connection.standing (Families.resolve fun name =>
      (Connection.resolve config.autoload name : Act (Connection × Kernel) Family)) :=
    Families.leaves_resolve fun name => Connection.leaves_resolve config.autoload name
  refine .bind_right (limits_dial config) (fun connection => .undoing fun k => ?_) ?_
  · exact congrArg Prod.snd (hresolve.bind (fun _ _ => rfl) (connection, k))
  · intro connection k c hc
    have hstanding := hresolve (connection, k)
    change (Act.outcome (Act.undoing _ _) k).1 = .ok c at hc
    obtain ⟨k', hc⟩ : ∃ k', Act.outcome (Act.undoing _ _) k = (.ok c, k') := ⟨_, Prod.ext hc rfl⟩
    rw [Act.outcome_undoing_eq_ok_iff, Act.outcome_starting] at hc
    obtain ⟨families, s, hfamilies, hdone⟩ := run_bind_eq_ok_iff.1 (Prod.mk.inj hc).1
    rw [hfamilies] at hstanding
    cases hdone
    exact congrArg Prod.fst hstanding

theorem limits_reconnect (c : Client) :
    Limits (.ofDuration c.config.receiveTimeout?) (fun c : Client => c.connection.socket)
      c.reconnect := by
  refine .bind_right (limits_dial c.config) (fun _ _ => rfl) fun _ _ d hd => ?_
  cases hd
  rfl

/-- **Requests wait as long as they are told.** Whoever opens a socket for requests, whether for a
new client, for another client with the same settings, or without one, and whatever becomes of the
system calls: if there is a socket in the end, the system has been told one limit, and this is the
limit of that socket; otherwise at most one. The limit tells the span in the settings. It is the
span in whole microseconds unless this is a vast one, and it is there exactly if there is a span
that is not a brief one. -/
theorem waits_as_told (config : Config) : ∃ time : TimeValue,
    time.Tells config.receiveTimeout? ∧
    Limits time (fun c => c.connection.socket) (connect config) ∧
    (∀ connection families isOpen, Limits time (fun c => c.connection.socket)
      (reconnect ⟨connection, families, config, isOpen⟩)) ∧
    ∀ groups bufferLength, Limits time Connection.socket
      (Connection.connect groups config.receiveTimeout? bufferLength) :=
  ⟨.ofDuration config.receiveTimeout?, TimeValue.tells config.receiveTimeout?,
    limits_connect config,
    fun connection families isOpen => limits_reconnect ⟨connection, families, config, isOpen⟩,
    fun groups bufferLength => Connection.limits_connect groups config.receiveTimeout? bufferLength⟩

/-- Two seconds and a little more than half a millisecond are told in whole microseconds. -/
example : Kernel.limits (Act.outcome (dial { receiveTimeout? := some ⟨2, 500999⟩ })
    (.start 1 false)).2 = [(0, ⟨2, 500⟩)] := by
  decide

/-- If requests are to wait no time at all, or less than a microsecond, they wait for ever; and of
a number of seconds that is no signed one the system is told a negative one. -/
theorem waits_for_ever :
    Kernel.limits (Act.outcome (dial { receiveTimeout? := some ⟨0, 0⟩ })
        (.start 1 false)).2 = [(0, .unlimited)] ∧
      Kernel.limits (Act.outcome (dial { receiveTimeout? := some ⟨0, 999⟩ })
        (.start 1 false)).2 = [(0, .unlimited)] ∧
      Kernel.limits (Act.outcome (dial { receiveTimeout? := some ⟨9223372036854775808, 0⟩ })
        (.start 1 false)).2 = [(0, ⟨-9223372036854775808, 0⟩)] := by
  decide

end Client

end VSwitch

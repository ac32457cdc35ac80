import Mathlib
import VSwitch.Proofs.Reading

/-!
# Where a cursor stands

A message may be walked over in any order of steps, also behind steps that have failed. A step
that takes a header or a chunk either finds it too short and stays, or moves behind it, and only
then looks at what it has taken. A step over attributes moves to the end or stays. So the cursor
never leaves the message, and it stands at a multiple of four unless it has come to the end.

* `VSwitch.Cursor.Step` is one step, and `VSwitch.Cursor.Step.perform` carries it out;
* `VSwitch.Cursor.Step.Objects` says what a step finds wrong with a header that it has taken;
* `VSwitch.Cursor.Step.Goes` lists the ways in which a step ends, each with the place where it
  leaves the cursor, and `VSwitch.Cursor.Step.goes_perform` says that it ends in one of them;
* `VSwitch.Cursor.sound_after`: this holds the cursor in place over all steps;
* `VSwitch.Cursor.keeps_in_step` is the result.
-/

namespace VSwitch

namespace Cursor

/-! ### Steps -/

/-- A step over a message. -/
inductive Step
  /-- The header of the message is taken. -/
  | messageHeader
  /-- The header of the message is taken, which has to be of a type. -/
  | expectType (type : UInt16)
  /-- The header of the message is taken and compared with a request. -/
  | checkHeader (port sequence : UInt32)
  /-- The header of generic netlink is taken, which has to be of a command. -/
  | expectCommand (command : UInt8)
  /-- The header of generic netlink is taken, whose command has to be one of those listed. -/
  | expectCommandOf (commands : List UInt8)
  /-- The header that names a datapath is taken. -/
  | datapathHeader
  /-- A chunk is taken. -/
  | advance (context : String) (length : Nat)
  /-- The rest is taken as a set of attributes. -/
  | attributes
  /-- The rest is taken as a list of attributes. -/
  | attributeList

namespace Step

/-- Carries out a step, of which only the failure is told. -/
def scan : Step → Scan Failure Unit
  | .messageHeader => do let _ ← reading Cursor.messageHeader
  | .expectType type => do let _ ← reading (Cursor.expectType type)
  | .checkHeader port sequence => do let _ ← Cursor.checkHeader port sequence
  | .expectCommand command => do let _ ← reading (Cursor.expectCommand command)
  | .expectCommandOf commands => do let _ ← reading (Cursor.expectCommandOf commands)
  | .datapathHeader => do let _ ← reading Cursor.datapathHeader
  | .advance context length => do let _ ← reading (Cursor.advance context length)
  | .attributes => do let _ ← reading Cursor.attributes
  | .attributeList => do let _ ← reading Cursor.attributeList

/-- What comes of a step from a place, and where it leaves the cursor. -/
def perform (s : Step) (c : Cursor) : Except Failure Unit × Cursor := s.scan.run c

/-- The header or chunk that a step takes, by the name that reports give it, and its length. The
steps over attributes take whatever is left. -/
def taking? : Step → Option (String × Nat)
  | .messageHeader | .expectType _ | .checkHeader _ _ =>
    some ("netlink header", MessageHeader.size)
  | .expectCommand _ | .expectCommandOf _ => some ("generic netlink header", GenericHeader.size)
  | .datapathHeader => some ("datapath header", DatapathHeader.size)
  | .advance context length => some (context, length)
  | .attributes | .attributeList => none

end Step

/-- The cursor behind some steps, whether they have failed or not. -/
def after (c : Cursor) (steps : List Step) : Cursor := steps.foldl (fun c s => (s.perform c).2) c

/-! ### How a step ends -/

/-- A step finds something wrong with the header in the first octets, which it has taken. -/
inductive Step.Objects (octets : Bytes) : Step → Failure → Prop
  /-- The message is of another type. -/
  | type {type : UInt16} (ne : (MessageHeader.ofBytes octets).type ≠ type) :
    Objects octets (.expectType type)
      (.decode (.unexpectedType type (MessageHeader.ofBytes octets).type))
  /-- The command is another one. -/
  | command {command : UInt8} (ne : (GenericHeader.ofBytes octets).command ≠ command) :
    Objects octets (.expectCommand command)
      (.decode (.unexpectedCommand [command] (GenericHeader.ofBytes octets).command))
  /-- The command is none of those listed. -/
  | commandOf {commands : List UInt8} (mem : (GenericHeader.ofBytes octets).command ∉ commands) :
    Objects octets (.expectCommandOf commands)
      (.decode (.unexpectedCommand commands (GenericHeader.ofBytes octets).command))
  /-- The message is for another port. -/
  | port {port sequence : UInt32} (ne : (MessageHeader.ofBytes octets).port ≠ port) :
    Objects octets (.checkHeader port sequence)
      (.wrongPort port (MessageHeader.ofBytes octets).port)
  /-- The message answers the request and reports an error of the kernel behind its header. -/
  | kernel {port sequence : UInt32} (port_eq : (MessageHeader.ofBytes octets).port = port)
      (sequence_eq : (MessageHeader.ofBytes octets).sequence = sequence)
      (isError : (MessageHeader.ofBytes octets).isError = true)
      (enough : KernelError.size ≤ (octets.drop MessageHeader.size).length)
      (code_ne : (KernelError.ofBytes (octets.drop MessageHeader.size)).code ≠ 0) :
    Objects octets (.checkHeader port sequence)
      (.kernel (KernelError.ofBytes (octets.drop MessageHeader.size)))
  /-- The message answers the request and is to report an error, but the report is too short. -/
  | report {port sequence : UInt32} (port_eq : (MessageHeader.ofBytes octets).port = port)
      (sequence_eq : (MessageHeader.ofBytes octets).sequence = sequence)
      (isError : (MessageHeader.ofBytes octets).isError = true)
      (few : (octets.drop MessageHeader.size).length < KernelError.size) :
    Objects octets (.checkHeader port sequence) (.decode (.truncated "netlink error"
      KernelError.size (octets.drop MessageHeader.size).length))

/-- **How a step ends** from a place, and where it leaves the cursor. -/
inductive Step.Goes (c : Cursor) : Step → Except Failure Unit → Cursor → Prop
  /-- The header or chunk that is to be taken is not all there: nothing moves. -/
  | missing {s : Step} {context : String} {n : Nat} (takes : s.taking? = some (context, n))
      (few : c.remaining.length < n) :
    Goes c s (.error (.decode (.truncated context n c.remaining.length))) c
  /-- A header or a chunk is taken and there is nothing wrong with it: the cursor moves behind it
  and its padding, as far as there is some. -/
  | taken {s : Step} {context : String} {n : Nat} (takes : s.taking? = some (context, n))
      (enough : n ≤ c.remaining.length) (agrees : ∀ f, ¬ s.Objects c.remaining f) :
    Goes c s (.ok ()) ⟨c.data, c.pos + min (align4 n) c.remaining.length⟩
  /-- A header is taken and something is wrong with it: the cursor stands just behind it. -/
  | rejected {s : Step} {context : String} {n : Nat} {f : Failure}
      (takes : s.taking? = some (context, n)) (enough : n ≤ c.remaining.length)
      (objects : s.Objects c.remaining f) :
    Goes c s (.error f) ⟨c.data, c.pos + n⟩
  /-- The rest is no sequence of attributes: nothing moves. -/
  | malformed {s : Step} {e : DecodeError} (takes : s.taking? = none)
      (unread : Attribute.parse c.remaining = .error e) : Goes c s (.error (.decode e)) c
  /-- The rest is taken as attributes: the cursor stands at the end. -/
  | consumed {s : Step} {l : List (UInt16 × Bytes)} (takes : s.taking? = none)
      (read : Attribute.parse c.remaining = .ok l) : Goes c s (.ok ()) ⟨c.data, c.data.length⟩

/-! ### Taking a header -/

section Taking

variable {c : Cursor} {context : String} {n : Nat}

/-- Octets that are not there cannot be taken. -/
theorem run_advance_of_lt (h : c.remaining.length < n) :
    (advance context n).run c = (.error (.truncated context n c.remaining.length), c) := by
  simp only [advance, run_bind, run_get, run_liftM, ensureLength_of_lt h]

variable (context) in
theorem run_advance_of_le (h : n ≤ c.remaining.length) :
    (advance context n).run c = (.ok (c.remaining.take n),
      ⟨c.data, c.pos + min (align4 n) c.remaining.length⟩) := by
  rw [run_advance h, List.length_take]

/-- What comes of steps that start with taking something, if it is not all there. -/
theorem run_advance_bind_of_lt {α : Type} {k : Bytes → Scan DecodeError α}
    (h : c.remaining.length < n) : (advance context n >>= k).run c =
      (.error (.truncated context n c.remaining.length), c) := by
  rw [run_bind, run_advance_of_lt h]

theorem run_messageHeader_of_le (h : MessageHeader.size ≤ c.remaining.length) :
    messageHeader.run c =
      (.ok (MessageHeader.ofBytes c.remaining), ⟨c.data, c.pos + MessageHeader.size⟩) :=
  run_messageHeader_eq_iff.2 ⟨h, rfl, rfl⟩

theorem run_messageHeader_of_lt (h : c.remaining.length < MessageHeader.size) :
    messageHeader.run c = (.error (.truncated "netlink header" MessageHeader.size
      c.remaining.length), c) :=
  run_advance_bind_of_lt h

theorem run_expectType_of_lt (type : UInt16) (h : c.remaining.length < MessageHeader.size) :
    (expectType type).run c =
      (.error (.truncated "netlink header" MessageHeader.size c.remaining.length), c) := by
  rw [expectType, run_bind, run_messageHeader_of_lt h]

theorem run_expectType_of_le (type : UInt16) (h : MessageHeader.size ≤ c.remaining.length) :
    (expectType type).run c =
      (if (MessageHeader.ofBytes c.remaining).type = type then
          .ok (MessageHeader.ofBytes c.remaining)
        else .error (.unexpectedType type (MessageHeader.ofBytes c.remaining).type),
        ⟨c.data, c.pos + MessageHeader.size⟩) := by
  rw [expectType, run_bind, run_messageHeader_of_le h]
  by_cases htype : (MessageHeader.ofBytes c.remaining).type = type
  · rw [if_pos htype]
    simp only [if_neg (not_not_intro htype)]
    rfl
  · rw [if_neg htype]
    simp only [if_pos htype]
    rfl

theorem run_expectCommandOf_of_le (commands : List UInt8)
    (h : GenericHeader.size ≤ c.remaining.length) :
    (expectCommandOf commands).run c =
      (if (GenericHeader.ofBytes c.remaining).command ∈ commands then
          .ok (GenericHeader.ofBytes c.remaining)
        else .error (.unexpectedCommand commands (GenericHeader.ofBytes c.remaining).command),
        ⟨c.data, c.pos + GenericHeader.size⟩) := by
  have htaken : (advance "generic netlink header" GenericHeader.size).run c =
      (.ok (c.remaining.take GenericHeader.size), ⟨c.data, c.pos + GenericHeader.size⟩) :=
    (run_advance_eq_iff rfl).2 ⟨h, rfl, rfl⟩
  rw [expectCommandOf, run_bind, htaken]
  simp only [run_bind, run_liftM, read_generic_take h]
  by_cases hmem : (GenericHeader.ofBytes c.remaining).command ∈ commands
  · rw [if_pos hmem, if_pos (List.contains_iff_mem.2 hmem)]
    rfl
  · rw [if_neg hmem, if_neg fun hcontains => hmem (List.contains_iff_mem.1 hcontains)]
    rfl

theorem run_checkHeader_of_lt (port sequence : UInt32)
    (h : c.remaining.length < MessageHeader.size) : (checkHeader port sequence).run c =
      (.error (.decode (.truncated "netlink header" MessageHeader.size c.remaining.length)), c) := by
  rw [checkHeader, run_bind, run_reading, run_messageHeader_of_lt h]
  rfl

/-- Comparing a message with a request looks at what is behind its header, but takes the header
alone. -/
theorem run_checkHeader_of_le (port sequence : UInt32)
    (h : MessageHeader.size ≤ c.remaining.length) :
    (checkHeader port sequence).run c = (Cursor.scan (checkHeader port sequence) c.remaining,
      ⟨c.data, c.pos + MessageHeader.size⟩) := by
  have hreport : (reading (do KernelError.read (← get).remaining)).run
      ⟨c.data, c.pos + MessageHeader.size⟩ =
        ((KernelError.read (c.remaining.drop MessageHeader.size)).mapError .decode,
          ⟨c.data, c.pos + MessageHeader.size⟩) := by
    rw [run_reading, run_bind, run_get]
    simp only [run_liftM, remaining, List.drop_drop]
  rw [scan_checkHeader port sequence h, checkHeader, run_bind, run_reading,
    run_messageHeader_of_le h]
  by_cases hport : (MessageHeader.ofBytes c.remaining).port ≠ port
  · simp only [Except.mapError, if_pos hport]
    rfl
  by_cases hsequence : (MessageHeader.ofBytes c.remaining).sequence ≠ sequence
  · simp only [Except.mapError, if_neg hport, if_pos hsequence]
    rfl
  by_cases herror : (MessageHeader.ofBytes c.remaining).isError = true
  · simp only [Except.mapError, if_neg hport, if_neg hsequence, if_pos herror, run_bind, hreport]
    cases KernelError.read (c.remaining.drop MessageHeader.size) with
    | error e => rfl
    | ok report =>
      by_cases hcode : report.code ≠ 0
      · simp only [if_pos hcode]
        rfl
      · simp only [if_neg hcode]
        rfl
  · simp only [Except.mapError, if_neg hport, if_neg hsequence, if_neg herror]
    rfl

/-- The rest is taken as a list of attributes. -/
theorem run_attributeList (c : Cursor) :
    attributeList.run c = match Attribute.parse c.remaining with
      | .ok l => (.ok l, { c with pos := c.data.length })
      | .error e => (.error e, c) := by
  rw [attributeList, run_bind, run_get]
  simp only [run_bind, run_liftM]
  cases Attribute.parse c.remaining <;> rfl

end Taking

/-! ### One step -/

namespace Step

variable {c c' : Cursor} {s : Step} {context : String} {n : Nat} {octets : Bytes}

/-- What is taken counts for nothing behind a step. -/
theorem run_forget {α : Type} (steps : Scan Failure α) (c : Cursor) :
    (do let _ ← steps : Scan Failure Unit).run c =
      ((steps.run c).1.map fun _ => (), (steps.run c).2) := by
  rw [run_bind]
  rcases steps.run c with ⟨_ | _, _⟩ <;> rfl

/-- What is told of something that has been read. -/
def told {α : Type} (outcome : Except DecodeError α) : Except Failure Unit :=
  (outcome.mapError .decode).map fun _ => ()

/-- A step that only reads tells what comes of that. -/
theorem perform_of_reading {α : Type} {steps : Scan DecodeError α}
    (hs : s.scan = do let _ ← reading steps) (c : Cursor) :
    s.perform c = (told (steps.run c).1, (steps.run c).2) := by
  rw [perform, hs, run_forget, run_reading, told]

/-- What comes of a header that has been taken: it is accepted if there is nothing wrong with it,
and otherwise refused for what is wrong. -/
def Judges (octets : Bytes) (s : Step) (outcome : Except Failure Unit) : Prop :=
  (outcome = .ok () ∧ ∀ f, ¬ s.Objects octets f) ∨ ∃ f, outcome = .error f ∧ s.Objects octets f

theorem judges_messageHeader : Judges octets .messageHeader (.ok ()) := by
  refine .inl ⟨rfl, fun f h => ?_⟩
  cases h

theorem judges_datapathHeader : Judges octets .datapathHeader (.ok ()) := by
  refine .inl ⟨rfl, fun f h => ?_⟩
  cases h

/-- A header is judged by a test, if there is nothing else that may be wrong with it. -/
theorem judges_ite {α : Type} {p : Prop} [Decidable p] {a : α} {e : DecodeError}
    (accepts : p → ∀ f, ¬ s.Objects octets f) (refuses : ¬ p → s.Objects octets (.decode e)) :
    Judges octets s (told (if p then .ok a else .error e)) := by
  by_cases hp : p
  · rw [if_pos hp]
    exact .inl ⟨rfl, accepts hp⟩
  · rw [if_neg hp]
    exact .inr ⟨_, rfl, refuses hp⟩

theorem judges_expectType (type : UInt16) : Judges octets (.expectType type)
    (told (if (MessageHeader.ofBytes octets).type = type then .ok (MessageHeader.ofBytes octets)
      else .error (.unexpectedType type (MessageHeader.ofBytes octets).type))) := by
  refine judges_ite (fun htype f h => ?_) .type
  cases h with
  | type ne => exact ne htype

theorem judges_expectCommandOf (commands : List UInt8) : Judges octets (.expectCommandOf commands)
    (told (if (GenericHeader.ofBytes octets).command ∈ commands then
        .ok (GenericHeader.ofBytes octets)
      else .error (.unexpectedCommand commands (GenericHeader.ofBytes octets).command))) := by
  refine judges_ite (fun hmem f h => ?_) .commandOf
  cases h with
  | commandOf mem => exact mem hmem

theorem judges_expectCommand (command : UInt8) : Judges octets (.expectCommand command)
    (told (if (GenericHeader.ofBytes octets).command ∈ [command] then
        .ok (GenericHeader.ofBytes octets)
      else .error (.unexpectedCommand [command] (GenericHeader.ofBytes octets).command))) := by
  refine judges_ite (fun hmem f h => ?_) fun hmem =>
    .command fun heq => hmem (List.mem_singleton.2 heq)
  cases h with
  | command ne => exact ne (List.mem_singleton.1 hmem)

/-- Of a message for the right port, an answer is refused only for the error that it reports. -/
theorem judges_checkHeader (port sequence : UInt32) (h : MessageHeader.size ≤ octets.length) :
    Judges octets (.checkHeader port sequence)
      ((Cursor.scan (Cursor.checkHeader port sequence) octets).map fun _ => ()) := by
  rw [scan_checkHeader port sequence h]
  by_cases hport : (MessageHeader.ofBytes octets).port ≠ port
  · exact .inr ⟨_, by rw [if_pos hport]; rfl, .port hport⟩
  rw [if_neg hport]
  rw [not_not] at hport
  by_cases hsequence : (MessageHeader.ofBytes octets).sequence ≠ sequence
  · refine .inl ⟨by rw [if_pos hsequence]; rfl, fun f hf => ?_⟩
    cases hf with
    | port ne => exact ne hport
    | kernel _ sequence_eq => exact hsequence sequence_eq
    | report _ sequence_eq => exact hsequence sequence_eq
  rw [if_neg hsequence]
  rw [not_not] at hsequence
  by_cases herror : (MessageHeader.ofBytes octets).isError = true
  · rw [if_pos herror]
    rcases Nat.lt_or_ge (octets.drop MessageHeader.size).length KernelError.size with hlt | hle
    · rw [KernelError.read_of_lt hlt]
      exact .inr ⟨_, rfl, .report hport hsequence herror hlt⟩
    rw [KernelError.read_of_le hle]
    by_cases hcode : (KernelError.ofBytes (octets.drop MessageHeader.size)).code ≠ 0
    · exact .inr ⟨_, by simp only [if_pos hcode]; rfl,
        .kernel hport hsequence herror hle hcode⟩
    · refine .inl ⟨by simp only [if_neg hcode]; rfl, fun f hf => ?_⟩
      cases hf with
      | port ne => exact ne hport
      | kernel _ _ _ _ code_ne => exact hcode code_ne
      | report _ _ _ few => exact absurd few (Nat.not_lt.2 hle)
  · refine .inl ⟨by rw [if_neg herror]; rfl, fun f hf => ?_⟩
    cases hf with
    | port ne => exact ne hport
    | kernel _ _ isError => exact herror isError
    | report _ _ isError => exact herror isError

/-- A step over a header, whose length is a multiple of four, fails without moving if the header is
too short, and otherwise judges it from behind it. -/
theorem Goes.of_header (outcome : Except Failure Unit) (takes : s.taking? = some (context, n))
    (haligned : n % 4 = 0)
    (few : c.remaining.length < n →
      s.perform c = (.error (.decode (.truncated context n c.remaining.length)), c))
    (enough : n ≤ c.remaining.length →
      s.perform c = (outcome, ⟨c.data, c.pos + n⟩) ∧ Judges c.remaining s outcome) :
    s.Goes c (s.perform c).1 (s.perform c).2 := by
  rcases Nat.lt_or_ge c.remaining.length n with hlt | hle
  · rw [few hlt]
    exact .missing takes hlt
  obtain ⟨hperform, ⟨rfl, hagrees⟩ | ⟨f, rfl, hobjects⟩⟩ := enough hle
  · have htaken := Goes.taken takes hle hagrees
    rw [align4_of_aligned haligned, Nat.min_eq_left hle] at htaken
    rw [hperform]
    exact htaken
  · rw [hperform]
    exact .rejected takes hle hobjects

/-- A step over a header, if nothing is looked at but what has been read. -/
theorem Goes.of_reading {α : Type} {steps : Scan DecodeError α} {outcome : Except DecodeError α}
    (hs : s.scan = do let _ ← reading steps) (takes : s.taking? = some (context, n))
    (haligned : n % 4 = 0)
    (few : c.remaining.length < n →
      steps.run c = (.error (.truncated context n c.remaining.length), c))
    (enough : n ≤ c.remaining.length → steps.run c = (outcome, ⟨c.data, c.pos + n⟩))
    (judges : Judges c.remaining s (told outcome)) : s.Goes c (s.perform c).1 (s.perform c).2 := by
  have hperform := perform_of_reading hs c
  refine .of_header (told outcome) takes haligned (fun hlt => ?_) fun hle => ⟨?_, judges⟩
  · rw [hperform, few hlt]
    rfl
  · rw [hperform, enough hle]

/-- **A step ends** in one of the ways that are listed. -/
theorem goes_perform (s : Step) (c : Cursor) : s.Goes c (s.perform c).1 (s.perform c).2 := by
  cases s with
  | messageHeader =>
    exact .of_reading rfl rfl rfl run_messageHeader_of_lt run_messageHeader_of_le
      judges_messageHeader
  | expectType type =>
    exact .of_reading rfl rfl rfl (run_expectType_of_lt type) (run_expectType_of_le type)
      (judges_expectType type)
  | checkHeader port sequence =>
    refine .of_header _ rfl rfl (fun hlt => ?_) fun hle => ⟨?_, judges_checkHeader port sequence hle⟩
    · rw [perform, scan, run_forget, run_checkHeader_of_lt port sequence hlt]
      rfl
    · rw [perform, scan, run_forget, run_checkHeader_of_le port sequence hle]
  | expectCommand command =>
    exact .of_reading rfl rfl rfl run_advance_bind_of_lt (run_expectCommandOf_of_le [command])
      (judges_expectCommand command)
  | expectCommandOf commands =>
    exact .of_reading rfl rfl rfl run_advance_bind_of_lt (run_expectCommandOf_of_le commands)
      (judges_expectCommandOf commands)
  | datapathHeader =>
    exact .of_reading rfl rfl rfl run_advance_bind_of_lt
      (fun hle => run_datapathHeader_eq_iff.2 ⟨hle, rfl, rfl⟩) judges_datapathHeader
  | advance context length =>
    rw [perform_of_reading rfl]
    rcases Nat.lt_or_ge c.remaining.length length with hlt | hle
    · rw [run_advance_of_lt hlt]
      exact .missing rfl hlt
    · rw [run_advance_of_le context hle]
      refine .taken rfl hle fun f h => ?_
      cases h
  | «attributes» =>
    rw [perform_of_reading rfl, run_attributes, AttributeSet.parse]
    cases hparse : Attribute.parse c.remaining with
    | error e => exact .malformed rfl hparse
    | ok l => exact .consumed rfl hparse
  | attributeList =>
    rw [perform_of_reading rfl, run_attributeList]
    cases hparse : Attribute.parse c.remaining with
    | error e => exact .malformed rfl hparse
    | ok l => exact .consumed rfl hparse

/-! ### Where a step leads -/

variable {outcome : Except Failure Unit} {f : Failure}

/-- Only headers are refused, and their lengths are multiples of four. -/
theorem Objects.aligned (h : s.Objects octets f) (takes : s.taking? = some (context, n)) :
    n % 4 = 0 := by
  cases h <;> cases takes <;> rfl

theorem Goes.data_eq (h : s.Goes c outcome c') : c'.data = c.data := by
  cases h <;> rfl

/-- No step moves back. -/
theorem Goes.pos_le (h : s.Goes c outcome c') (hc : c.pos ≤ c.data.length) : c.pos ≤ c'.pos := by
  cases h with
  | missing => exact le_rfl
  | taken => exact Nat.le_add_right _ _
  | rejected => exact Nat.le_add_right _ _
  | malformed => exact le_rfl
  | consumed => exact hc

/-- Where the cursor is behind a step that has failed: behind the header, if all of this was there,
and otherwise where it was. -/
def Stands (s : Step) (c c' : Cursor) : Prop :=
  match s.taking? with
  | none => c' = c
  | some (_, n) => if c.remaining.length < n then c' = c else c'.pos = c.pos + n

theorem Goes.stands (h : s.Goes c (.error f) c') : s.Stands c c' := by
  cases h with
  | missing takes few => simp only [Stands, takes, if_pos few]
  | rejected takes enough => simp only [Stands, takes, if_neg (Nat.not_lt.2 enough)]
  | malformed takes => simp only [Stands, takes]

theorem Goes.pos_eq_length (h : s.Goes c (.ok ()) c') (hs : s.taking? = none) :
    c'.pos = c.data.length := by
  cases h with
  | taken takes =>
    rw [hs] at takes
    cases takes
  | consumed => rfl

end Step

/-! ### All steps -/

/-- The cursor stands within the message, at a multiple of four unless at the end. -/
structure Sound (c : Cursor) : Prop where
  pos_le : c.pos ≤ c.data.length
  aligned : c.pos % 4 = 0 ∨ c.pos = c.data.length

theorem sound_start (data : Bytes) : (start data).Sound := ⟨Nat.zero_le _, .inl rfl⟩

/-- **One step** leaves a cursor where it may stand: behind a header it is aligned as before, and
behind a chunk it is aligned, unless the padding has been cut short by the end. -/
theorem Step.Goes.sound {c c' : Cursor} {s : Step} {outcome : Except Failure Unit}
    (h : s.Goes c outcome c') (hc : c.Sound) : c'.Sound := by
  have hpos := hc.pos_le
  have hlength : c.remaining.length = c.data.length - c.pos := List.length_drop
  cases h with
  | missing => exact hc
  | malformed => exact hc
  | consumed => exact ⟨le_rfl, .inr rfl⟩
  | @taken _ n =>
    have halign := align4_mod_four n
    have haligned := hc.aligned
    refine ⟨?_, ?_⟩
    · show c.pos + min (align4 n) c.remaining.length ≤ c.data.length
      omega
    · show (c.pos + min (align4 n) c.remaining.length) % 4 = 0 ∨
        c.pos + min (align4 n) c.remaining.length = c.data.length
      omega
  | @rejected _ n _ takes enough objects =>
    have hn : n % 4 = 0 := objects.aligned takes
    have haligned := hc.aligned
    refine ⟨?_, ?_⟩
    · show c.pos + n ≤ c.data.length
      omega
    · show (c.pos + n) % 4 = 0 ∨ c.pos + n = c.data.length
      omega

/-- **All steps** keep the message and leave the cursor where it may stand. -/
theorem sound_after (c : Cursor) (steps : List Step) (hc : c.Sound) :
    (c.after steps).data = c.data ∧ (c.after steps).Sound := by
  induction steps generalizing c with
  | nil => exact ⟨rfl, hc⟩
  | cons s steps ih =>
    have hgoes := s.goes_perform c
    obtain ⟨hdata, hsound⟩ := ih (s.perform c).2 (hgoes.sound hc)
    exact ⟨hdata.trans hgoes.data_eq, hsound⟩

/-- **Where a cursor stands.** After any steps over a message, failed ones included, the cursor is
within the message, at a multiple of four unless at the end, and the next step ends in one of the
ways of `VSwitch.Cursor.Step.Goes`, which never moves the cursor back. In particular, a step that
fails has moved only if it found all of the header that it takes, and then just behind this; and a
step over attributes that does not fail has moved to the end. -/
theorem keeps_in_step (data : Bytes) (steps : List Step) (s : Step) :
    let c := (start data).after steps
    let (outcome, c') := s.perform c
    (c.data = data ∧ c.Sound) ∧ (c'.data = data ∧ c'.Sound) ∧ c.pos ≤ c'.pos ∧
      s.Goes c outcome c' ∧ (∀ f, outcome = .error f → s.Stands c c') ∧
      (outcome = .ok () → s.taking? = none → c'.pos = data.length) := by
  intro c
  obtain ⟨hdata, hsound⟩ := sound_after (start data) steps (sound_start data)
  have hgoes := s.goes_perform c
  generalize s.perform c = result at hgoes ⊢
  obtain ⟨outcome, c'⟩ := result
  refine ⟨⟨hdata, hsound⟩, ⟨hgoes.data_eq.trans hdata, hgoes.sound hsound⟩,
    hgoes.pos_le hsound.pos_le, hgoes, ?_, ?_⟩
  · rintro f rfl
    exact hgoes.stands
  · rintro rfl hs
    exact (hgoes.pos_eq_length hs).trans (congrArg List.length hdata)

end Cursor

end VSwitch

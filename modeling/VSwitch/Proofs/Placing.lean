import VSwitch.Proofs.Envelope

/-!
# Where a draft is written

A draft only grows. The header of an attribute is completed after its value has been written, by a
writer that may call whatever it likes, to any depth, and that may fail at any point or go on behind
calls that have failed; but what is completed is the header alone. So all that a call does is to
append segments: octets as they are given, padding up to a multiple of four, and headers at
multiples of four.

* `VSwitch.Stroke` is a call with a writer for each attribute, and `VSwitch.Script` is what a writer
  does; `VSwitch.Put.run_stroke` finds the calls of drafts among them;
* `VSwitch.Stroke.segments` are the segments that a call appends, and `VSwitch.Draft.Laid` says that
  segments are appended and stand where they may;
* `VSwitch.Stroke.laid` and `VSwitch.Script.laid`: this is all that calls and writers do;
* `VSwitch.Draft.Stamped` says what finishing changes;
* `VSwitch.Script.laid_in_order` is the result.
-/

namespace VSwitch

/-! ### Scripts -/

mutual

/-- A call on a draft, by what it is made of. -/
inductive Stroke
  /-- Octets are appended as they are. -/
  | append (octets : Bytes)
  /-- The draft is padded. -/
  | align
  /-- A record is appended behind padding. -/
  | record (octets : Bytes)
  /-- Zeros are appended behind padding. -/
  | reserve (count : Nat)
  /-- Nothing is written, as there is something wrong with what was to be written. -/
  | refuse (e : EncodeError)
  /-- An attribute, whose value a writer writes. -/
  | attribute (type : UInt16) (inner : Script)
  /-- An attribute, whose value is the list of attributes that a writer writes. -/
  | nested (type : UInt16) (inner : Script)

/-- What a writer does: it makes one call after the other, each chosen by what has come of the one
before and by what is written so far, and then it succeeds or fails as it likes. -/
inductive Script
  /-- Nothing more is written. -/
  | done (result : Except EncodeError Unit)
  /-- A call is made, and the writer goes on whether it fails or not. -/
  | call (s : Stroke) (next : Except EncodeError Unit → Draft → Script)

end

mutual

/-- Carries out a call. -/
def Stroke.run : Stroke → Draft → Except EncodeError Unit × Draft
  | .append octets, d => (.ok (), d.append octets)
  | .align, d => (.ok (), d.align)
  | .record octets, d => (.ok (), d.appendRecord octets)
  | .reserve count, d => (.ok (), d.reserve count)
  | .refuse e, d => (.error e, d)
  | .attribute type inner, d =>
    match inner.run (d.reserve AttributeHeader.size) with
    | (.ok (), d') =>
      match d'.close d.align.length type with
      | (.ok (), d'') => (.ok (), d''.align)
      | failed => failed
    | failed => failed
  | .nested type inner, d =>
    match inner.run (d.reserve AttributeHeader.size) with
    | (.ok (), d') => d'.align.close d.align.length type
    | failed => failed

/-- Carries out the calls of a writer. -/
def Script.run : Script → Draft → Except EncodeError Unit × Draft
  | .done result, d => (result, d)
  | .call s next, d =>
    match s.run d with
    | (result, d') => (next result d').run d'

end

/-- The writer that appends octets. -/
def Script.just (octets : Bytes) : Script := .call (.append octets) fun result _ => .done result

theorem Script.run_just (octets : Bytes) (d : Draft) :
    (just octets).run d = (.ok (), d.append octets) := by
  simp only [just, run, Stroke.run]

mutual

/-- The call as one with writers. A number, a text or any other value of octets is an attribute
whose writer appends it. -/
def Put.stroke : Put → Stroke
  | .genericHeader command version => .record (GenericHeader.toBytes ⟨command, version⟩)
  | .datapathHeader ifindex => .record (DatapathHeader.toBytes ⟨ifindex⟩)
  | .slice type value => .attribute type (.just value)
  | .text type content =>
    if content.contains '\x00' then .refuse .nulInText
    else .attribute type (.just (Utf8.encode content ++ [0]))
  | .raw octets => .append octets
  | .align => .align
  | .reserve count => .reserve count
  | .attribute type inner => .attribute type (Put.script inner)
  | .nested type inner => .nested type (Put.script inner)

/-- The writer that makes calls until one fails. -/
def Put.script : List Put → Script
  | [] => .done (.ok ())
  | p :: rest => .call p.stroke fun
    | .ok (), _ => Put.script rest
    | .error e, _ => .done (.error e)

end

theorem Put.run_just (type : UInt16) (value : Bytes) (d : Draft) :
    (Stroke.attribute type (.just value)).run d = runSlice type value d := by
  rw [Stroke.run, Script.run_just]
  rfl

mutual

/-- **The calls of drafts** are calls with writers. -/
theorem Put.run_stroke (p : Put) (d : Draft) : p.stroke.run d = p.run d := by
  cases p with
  | genericHeader command version => rw [Put.stroke, Stroke.run, Put.run]
  | datapathHeader ifindex => rw [Put.stroke, Stroke.run, Put.run]
  | slice type value => rw [Put.stroke, Put.run, Put.run_just]
  | text type content =>
    rw [Put.stroke, Put.run]
    split
    · rw [Stroke.run]
    · rw [Put.run_just]
  | raw octets => rw [Put.stroke, Stroke.run, Put.run]
  | align => rw [Put.stroke, Stroke.run, Put.run]
  | reserve count => rw [Put.stroke, Stroke.run, Put.run]
  | «attribute» type inner =>
    rw [Put.stroke, Stroke.run, Put.run_script]
    rfl
  | nested type inner =>
    rw [Put.stroke, Stroke.run, Put.run_script]
    rfl

/-- Writers that stop at the first failure are among all writers. -/
theorem Put.run_script (puts : List Put) (d : Draft) :
    (Put.script puts).run d = Put.runAll puts d := by
  cases puts with
  | nil => rw [Put.script, Script.run, Put.runAll]
  | cons p rest =>
    rw [Put.script, Script.run, Put.run_stroke p d, Put.runAll]
    rcases p.run d with ⟨_ | _, d'⟩
    · simp only [Script.run]
    · exact Put.run_script rest d'

end

/-! ### Segments -/

/-- What a call appends without a break. -/
inductive Segment
  /-- Octets that are given. -/
  | octets (b : Bytes)
  /-- Zeros that pad the draft. -/
  | padding (count : Nat)
  /-- The header of an attribute, or its place if the attribute has never been completed. -/
  | header (h? : Option AttributeHeader)

namespace Segment

/-- The octets of a segment. -/
def bytes : Segment → Bytes
  | .octets b => b
  | .padding count => List.replicate count 0
  | .header none => List.replicate AttributeHeader.size 0
  | .header (some h) => h.toBytes

/-- A segment may stand at a place: headers stand at multiples of four, and padding ends at the next
one. -/
def Stands (pos : Nat) : Segment → Prop
  | .octets _ => True
  | .padding count => pos + count = align4 pos
  | .header _ => pos % 4 = 0

/-- Segments may stand one behind the other from a place on. -/
def AllStand : Nat → List Segment → Prop
  | _, [] => True
  | pos, g :: rest => g.Stands pos ∧ AllStand (pos + g.bytes.length) rest

theorem length_bytes_header (h? : Option AttributeHeader) :
    (header h?).bytes.length = AttributeHeader.size := by
  cases h? with
  | none => exact List.length_replicate
  | some h => exact h.length_toBytes

theorem allStand_append {pos : Nat} {segments later : List Segment} :
    AllStand pos (segments ++ later) ↔ AllStand pos segments ∧
      AllStand (pos + (segments.flatMap bytes).length) later := by
  induction segments generalizing pos with
  | nil =>
    constructor
    · intro h
      exact ⟨trivial, h⟩
    · intro h
      exact h.2
  | cons g rest ih =>
    rw [List.cons_append, AllStand, AllStand, ih, List.flatMap_cons, List.length_append,
      Nat.add_assoc, and_assoc]

end Segment

namespace Draft

/-- The zeros that pad a draft. -/
def padding (d : Draft) : Segment := .padding (align4 d.length - d.length)

/-- The header of the attribute that everything from a place on becomes, if it is not too long. -/
def header? (d : Draft) (pos : Nat) (type : UInt16) : Option AttributeHeader :=
  if d.length - pos ≤ maxAttributeLength then
    some { length := UInt16.ofNat (d.length - pos), type }
  else none

/-- A draft becomes another one as segments are appended to it, each where it may stand. What was
there before is left as it is. -/
structure Laid (d : Draft) (segments : List Segment) (d' : Draft) : Prop where
  bytes_eq : d'.bytes = d.bytes ++ segments.flatMap Segment.bytes
  stand : Segment.AllStand d.length segments

variable {d d' d'' : Draft} {segments later : List Segment}

namespace Laid

theorem refl (d : Draft) : Laid d [] d := ⟨(List.append_nil _).symm, trivial⟩

theorem length_eq (h : Laid d segments d') :
    d'.length = d.length + (segments.flatMap Segment.bytes).length := by
  rw [length, h.bytes_eq, List.length_append]
  rfl

theorem trans (h : Laid d segments d') (h' : Laid d' later d'') :
    Laid d (segments ++ later) d'' := by
  refine ⟨?_, Segment.allStand_append.2 ⟨h.stand, ?_⟩⟩
  · rw [h'.bytes_eq, h.bytes_eq, List.flatMap_append, List.append_assoc]
  · rw [← h.length_eq]
    exact h'.stand

theorem append (d : Draft) (octets : Bytes) : Laid d [.octets octets] (d.append octets) := by
  refine ⟨?_, trivial, trivial⟩
  rw [Draft.append, List.flatMap_singleton]
  rfl

theorem align (d : Draft) : Laid d [d.padding] d.align := by
  refine ⟨?_, ?_, trivial⟩
  · rw [Draft.align, Bytes.pad4, List.flatMap_singleton]
    rfl
  · have hle := le_align4 d.length
    show d.length + (align4 d.length - d.length) = align4 d.length
    omega

/-- A value is written behind the place of its header, which is kept free. -/
theorem behind_place (h : Laid (d.reserve AttributeHeader.size) segments d') :
    Laid d (d.padding :: .header none :: segments) d' := by
  have hplace : Laid d.align [.header none] (d.reserve AttributeHeader.size) := by
    refine ⟨?_, ?_, trivial⟩
    · rw [reserve, Draft.append, List.flatMap_singleton]
      rfl
    · show d.align.length % 4 = 0
      exact d.length_align_mod_four
  exact (align d).trans (hplace.trans h)

/-- **A header is completed** where its place is, and this changes nothing else. -/
theorem complete (h : Laid d (d.padding :: .header none :: segments) d') (g : AttributeHeader) :
    Laid d (d.padding :: .header (some g) :: segments)
      ⟨d'.bytes.patch d.align.length g.toBytes⟩ := by
  have hsize : (Segment.header none).bytes.length = (Segment.header (some g)).bytes.length := by
    rw [Segment.length_bytes_header, Segment.length_bytes_header]
  refine ⟨?_, h.stand.1, h.stand.2.1, ?_⟩
  · have hbytes : d'.bytes = d.align.bytes ++
        ((Segment.header none).bytes ++ segments.flatMap Segment.bytes) := by
      rw [h.bytes_eq, List.flatMap_cons, List.flatMap_cons, ← List.append_assoc]
      rfl
    have hpatch := Bytes.patch_append d.align.bytes _ (segments.flatMap Segment.bytes) _ hsize.symm
    rw [← hbytes] at hpatch
    rw [List.flatMap_cons, List.flatMap_cons, ← List.append_assoc]
    exact hpatch
  · rw [← hsize]
    exact h.stand.2.2

theorem length_complete (h : Laid d (d.padding :: .header none :: segments) d')
    (g : AttributeHeader) :
    length ⟨d'.bytes.patch d.align.length g.toBytes⟩ = d'.length := by
  rw [(h.complete g).length_eq, h.length_eq]
  simp only [List.flatMap_cons, List.length_append, Segment.length_bytes_header]

theorem padding_complete (h : Laid d (d.padding :: .header none :: segments) d')
    (g : AttributeHeader) :
    padding ⟨d'.bytes.patch d.align.length g.toBytes⟩ = d'.padding := by
  rw [padding, padding, h.length_complete g]

end Laid

/-- Everything from a place on becomes an attribute if its length can be written. -/
theorem close_eq (d : Draft) (pos : Nat) (type : UInt16) :
    d.close pos type = match d.header? pos type with
      | some h => (.ok (), ⟨d.bytes.patch pos h.toBytes⟩)
      | none => (.error (.attributeTooLong (d.length - pos)), d) := by
  rw [close, header?]
  dsimp only
  by_cases hle : d.length - pos ≤ maxAttributeLength
  · rw [if_pos hle, if_pos hle]
  · rw [if_neg hle, if_neg hle]

end Draft

/-! ### What calls append -/

mutual

/-- The segments that a call appends. The header of an attribute is completed if its writer has
succeeded and the attribute is not too long, and otherwise its place stays. -/
def Stroke.segments : Stroke → Draft → List Segment
  | .append octets, _ => [.octets octets]
  | .align, d => [d.padding]
  | .record octets, d => [d.padding, .octets octets]
  | .reserve count, d => [d.padding, .octets (List.replicate count 0)]
  | .refuse _, _ => []
  | .attribute type inner, d =>
    match inner.run (d.reserve AttributeHeader.size) with
    | (.error _, _) =>
      d.padding :: .header none :: inner.segments (d.reserve AttributeHeader.size)
    | (.ok (), d') =>
      match d'.header? d.align.length type with
      | none => d.padding :: .header none :: inner.segments (d.reserve AttributeHeader.size)
      | some h =>
        d.padding :: .header (some h) ::
          (inner.segments (d.reserve AttributeHeader.size) ++ [d'.padding])
  | .nested type inner, d =>
    match inner.run (d.reserve AttributeHeader.size) with
    | (.error _, _) =>
      d.padding :: .header none :: inner.segments (d.reserve AttributeHeader.size)
    | (.ok (), d') =>
      d.padding :: .header (d'.align.header? d.align.length type) ::
        (inner.segments (d.reserve AttributeHeader.size) ++ [d'.padding])

/-- The segments that a writer appends. -/
def Script.segments : Script → Draft → List Segment
  | .done _, _ => []
  | .call s next, d =>
    s.segments d ++ (next (s.run d).1 (s.run d).2).segments (s.run d).2

end

open Draft (Laid)

mutual

/-- **A call appends its segments**, whether it fails or not, and each stands where it may. -/
theorem Stroke.laid (s : Stroke) (d : Draft) : Laid d (s.segments d) (s.run d).2 := by
  cases s with
  | append octets =>
    rw [Stroke.segments, Stroke.run]
    exact .append d octets
  | align =>
    rw [Stroke.segments, Stroke.run]
    exact .align d
  | record octets =>
    rw [Stroke.segments, Stroke.run]
    exact (Laid.align d).trans (.append d.align octets)
  | reserve count =>
    rw [Stroke.segments, Stroke.run]
    exact (Laid.align d).trans (.append d.align _)
  | refuse e =>
    rw [Stroke.segments, Stroke.run]
    exact .refl d
  | «attribute» type inner =>
    -- Up to the end of the value, the header is but a place.
    have hvalue := (inner.laid (d.reserve AttributeHeader.size)).behind_place
    rw [Stroke.segments, Stroke.run]
    generalize inner.run (d.reserve AttributeHeader.size) = written at hvalue ⊢
    rcases written with ⟨_ | _, d'⟩
    · exact hvalue
    · dsimp only
      rw [d'.close_eq]
      cases d'.header? d.align.length type with
      | none => exact hvalue
      | some h =>
        have hpadded := (hvalue.complete h).trans (.align _)
        rw [hvalue.padding_complete h] at hpadded
        exact hpadded
  | nested type inner =>
    have hvalue := (inner.laid (d.reserve AttributeHeader.size)).behind_place
    rw [Stroke.segments, Stroke.run]
    generalize inner.run (d.reserve AttributeHeader.size) = written at hvalue ⊢
    rcases written with ⟨_ | _, d'⟩
    · exact hvalue
    · have hpadded := hvalue.trans (.align d')
      dsimp only
      rw [d'.align.close_eq]
      cases d'.align.header? d.align.length type with
      | none => exact hpadded
      | some h => exact hpadded.complete h

/-- **A writer appends the segments of its calls**, those that fail included. -/
theorem Script.laid (w : Script) (d : Draft) : Laid d (w.segments d) (w.run d).2 := by
  cases w with
  | done result =>
    rw [Script.segments, Script.run]
    exact .refl d
  | call s next =>
    rw [Script.segments, Script.run]
    exact (s.laid d).trans ((next (s.run d).1 (s.run d).2).laid (s.run d).2)

end

/-! ### Where calls end -/

/-- A call that ends at a multiple of four, if it does not fail: any call but those that append
octets as they are. -/
def Stroke.Aligns : Stroke → Prop
  | .append _ | .reserve _ => False
  | .record octets => octets.length % 4 = 0
  | .align | .refuse _ | .attribute _ _ | .nested _ _ => True

/-- **A call that does not fail** ends at a multiple of four, wherever it has started. -/
theorem Stroke.length_mod_four {s : Stroke} {d : Draft} (hs : s.Aligns)
    (hok : (s.run d).1 = .ok ()) : (s.run d).2.length % 4 = 0 := by
  cases s with
  | append octets => exact hs.elim
  | reserve count => exact hs.elim
  | align =>
    rw [run]
    exact d.length_align_mod_four
  | record octets =>
    have halign := d.length_align_mod_four
    have hoctets : octets.length % 4 = 0 := hs
    rw [run, Draft.appendRecord, Draft.length_append]
    omega
  | refuse e =>
    rw [run] at hok
    cases hok
  | «attribute» type inner =>
    rw [run] at hok ⊢
    generalize inner.run (d.reserve AttributeHeader.size) = written at hok ⊢
    rcases written with ⟨_ | _, d'⟩
    · cases hok
    · dsimp only at hok ⊢
      generalize d'.close d.align.length type = closed at hok ⊢
      rcases closed with ⟨_ | _, d''⟩
      · cases hok
      · exact d''.length_align_mod_four
  | nested type inner =>
    have hvalue := (inner.laid (d.reserve AttributeHeader.size)).behind_place
    rw [run] at hok ⊢
    generalize inner.run (d.reserve AttributeHeader.size) = written at hvalue hok ⊢
    rcases written with ⟨_ | _, d'⟩
    · cases hok
    · have hpadded := hvalue.trans (.align d')
      dsimp only at hok ⊢
      rw [d'.align.close_eq] at hok ⊢
      cases hheader : d'.align.header? d.align.length type with
      | none =>
        rw [hheader] at hok
        cases hok
      | some h =>
        have hlength := hpadded.length_complete h
        exact hlength ▸ d'.length_align_mod_four

/-- The calls that are made to append a header or an attribute. -/
def Put.Aligns : Put → Prop
  | .raw _ | .reserve _ => False
  | _ => True

theorem Put.aligns_stroke {p : Put} (hp : p.Aligns) : p.stroke.Aligns := by
  cases p with
  | raw octets => exact hp.elim
  | reserve count => exact hp.elim
  | genericHeader command version =>
    rw [stroke, Stroke.Aligns, GenericHeader.length_toBytes]
    rfl
  | datapathHeader ifindex =>
    rw [stroke, Stroke.Aligns, DatapathHeader.length_toBytes]
    rfl
  | text type content =>
    rw [stroke]
    split
    · rw [Stroke.Aligns]
      trivial
    · rw [Stroke.Aligns]
      trivial
  | slice type value | «attribute» type inner | nested type inner =>
    rw [stroke, Stroke.Aligns]
    trivial
  | align =>
    rw [stroke, Stroke.Aligns]
    trivial

/-! ### Finishing -/

namespace Draft

/-- What a finished message has of its draft: the length and the sequence number are put into their
places, and zeros are appended up to a multiple of four. -/
structure Stamped (d : Draft) (sequence : UInt32) (message : Bytes) : Prop where
  length_eq : message.length = align4 d.length
  stamp : message.take 4 = Bytes.ofNat 4 message.length
  sequence_eq : (message.drop 8).take 4 = Bytes.ofU32 sequence
  kept : ∀ i < d.length, ¬ i < 4 → ¬ (8 ≤ i ∧ i < 12) → message[i]? = d.bytes[i]?
  padded : ∀ i < message.length, d.length ≤ i → message[i]? = some 0

/-- What stands at a place of a finished message. -/
theorem getElem?_of_finish {d : Draft} {sequence : UInt32} {message : Bytes} (hd : d.Started)
    (h : d.finish sequence = .ok message) :
    message.length = align4 d.length ∧ ∀ i, message[i]? =
      if 8 ≤ i ∧ i < 12 then (Bytes.ofU32 sequence)[i - 8]?
      else if i < 4 then (Bytes.ofNat 4 (align4 d.length))[i]?
      else d.align.bytes[i]? := by
  have hsize : 16 ≤ d.length := hd
  have halign := d.length_le_align
  have hlength : d.align.bytes.length = align4 d.length := Bytes.length_pad4 _
  have hbytes : d.align.bytes.length = d.align.length := rfl
  have hfirst : 0 + (Bytes.ofNat 4 d.align.bytes.length).length ≤ d.align.bytes.length := by
    rw [Bytes.length_ofNat]
    omega
  have hsecond : 8 + (Bytes.ofU32 sequence).length ≤
      (d.align.bytes.patch 0 (Bytes.ofNat 4 d.align.bytes.length)).length := by
    rw [Bytes.length_ofU32, Bytes.length_patch hfirst]
    omega
  rw [finish] at h
  split at h
  · obtain rfl := Except.ok.inj h
    refine ⟨?_, fun i => ?_⟩
    · rw [Bytes.length_patch hsecond, Bytes.length_patch hfirst, hlength]
    · rw [Bytes.getElem?_patch hsecond, Bytes.getElem?_patch hfirst, Bytes.length_ofU32,
        Bytes.length_ofNat, hlength]
      simp only [Nat.zero_add, Nat.zero_le, true_and, Nat.sub_zero]
  · cases h

/-- **Finishing** stamps the header and pads the message. -/
theorem stamped_of_finish {d : Draft} {sequence : UInt32} {message : Bytes} (hd : d.Started)
    (h : d.finish sequence = .ok message) : d.Stamped sequence message := by
  have hsize : 16 ≤ d.length := hd
  obtain ⟨hlength, hmessage⟩ := getElem?_of_finish hd h
  refine ⟨hlength, ?_, ?_, fun i hi hstamp hsequence => ?_, fun i hi hbehind => ?_⟩
  · rw [hlength]
    refine List.ext_getElem? fun i => ?_
    rw [List.getElem?_take]
    by_cases hi : i < 4
    · rw [if_pos hi, hmessage, if_neg (by omega), if_pos hi]
    · rw [if_neg hi, List.getElem?_eq_none (by rw [Bytes.length_ofNat]; omega)]
  · refine List.ext_getElem? fun i => ?_
    rw [List.getElem?_take, List.getElem?_drop]
    by_cases hi : i < 4
    · rw [if_pos hi, hmessage, if_pos (by omega), Nat.add_sub_cancel_left]
    · rw [if_neg hi, List.getElem?_eq_none (by rw [Bytes.length_ofU32]; omega)]
  · rw [hmessage, if_neg hsequence, if_neg hstamp]
    exact List.getElem?_append_left hi
  · rw [hmessage, if_neg (by omega), if_neg (by omega)]
    rw [hlength] at hi
    have hzeros : d.align.bytes[i]? =
        (List.replicate (align4 d.length - d.length) 0 : Bytes)[i - d.length]? :=
      List.getElem?_append_right hbehind
    rw [hzeros, List.getElem?_replicate, if_pos (by omega)]

end Draft

/-! ### The result -/

/-- A text is refused for a zero in it before anything is written. -/
theorem Put.run_text_of_nulInText {type : UInt16} {content : String} {d : Draft}
    (h : ((Put.text type content).run d).1 = .error .nulInText) :
    ((Put.text type content).run d).2 = d := by
  rw [run] at h ⊢
  split at h
  · next hnul =>
    rw [if_pos hnul]
  · rw [runSlice, Draft.close_eq] at h
    -- An attribute that has been begun fails for its length alone.
    cases hheader : ((d.reserve AttributeHeader.size).append
        (Utf8.encode content ++ [0])).header? d.align.length type with
    | none =>
      rw [hheader] at h
      cases h
    | some g =>
      rw [hheader] at h
      cases h

theorem Script.started_run (w : Script) (flags type : UInt16) :
    (w.run (.start flags type)).2.Started := by
  rw [Draft.Started, (w.laid (.start flags type)).length_eq, Draft.length_start]
  exact Nat.le_add_right _ _

/-- **Drafts are written in order.** Whatever writers do:
* a call keeps what was written before it and appends segments, with padding of zeros up to
  multiples of four and headers at multiples of four, whether it fails or not; and so does a writer;
* a call that does not fail ends at a multiple of four, unless it appends octets as they are, and
  the calls of drafts are such calls;
* a text that is refused for a zero in it leaves the draft as it is;
* finishing changes nothing but the length and the sequence number in the header, and pads. -/
theorem Script.laid_in_order (w : Script) (s : Stroke) (p : Put) (d : Draft) :
    (d.bytes <+: (s.run d).2.bytes ∧ Laid d (s.segments d) (s.run d).2) ∧
      (d.bytes <+: (w.run d).2.bytes ∧ Laid d (w.segments d) (w.run d).2) ∧
      (s.Aligns → (s.run d).1 = .ok () → (s.run d).2.length % 4 = 0) ∧
      (p.stroke.run d = p.run d ∧ (p.Aligns → (p.run d).1 = .ok () → (p.run d).2.length % 4 = 0)) ∧
      (∀ type content, ((Put.text type content).run d).1 = .error .nulInText →
        ((Put.text type content).run d).2 = d) ∧
      ∀ flags type sequence message,
        (w.run (.start flags type)).2.finish sequence = .ok message →
          (w.run (.start flags type)).2.Stamped sequence message := by
  refine ⟨⟨⟨_, (s.laid d).bytes_eq.symm⟩, s.laid d⟩, ⟨⟨_, (w.laid d).bytes_eq.symm⟩, w.laid d⟩,
    Stroke.length_mod_four, ⟨p.run_stroke d, fun hp hok => ?_⟩, ?_, ?_⟩
  · rw [← p.run_stroke d] at hok ⊢
    exact Stroke.length_mod_four (Put.aligns_stroke hp) hok
  · intro type content h
    exact Put.run_text_of_nulInText h
  · intro flags type sequence message h
    exact Draft.stamped_of_finish (w.started_run flags type) h

end VSwitch

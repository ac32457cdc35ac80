import Mathlib
import VSwitch.Proofs.Flow.Tunnel
import VSwitch.Proofs.Flow.Writing

/-!
# Selected fields of a tunnel

Which fields of a tunnel are written is chosen apart from their values: for a key by its mask, for a
mask by the mask itself, and for an action by whoever makes it. Whatever is chosen can be written,
and what comes back is told field by field. The octets of a field that is not chosen are lost, and a
flag that is not set is not written even if it is chosen, so it is not found either.

* `VSwitch.AttributeTree.exists_writeOn_puts`: a forest that fits is written behind any draft;
* `VSwitch.TunnelFields.Selected` says what comes back of a tunnel and of a choice;
* `VSwitch.TunnelFields.selected_comes_back` is the result.
-/

namespace VSwitch

/-- **A forest that fits is written behind any draft**: the draft stays, and its octets stand behind
the padding. Where there are none of them, there need not be padding either. -/
theorem AttributeTree.exists_writeOn_puts {trees : List AttributeTree} (h : FitAll trees)
    (d : Draft) : ∃ d', Put.writeOn (puts trees) d = .ok d' ∧ d.bytes <+: d'.bytes ∧
      d'.bytes.drop d.align.length = wires trees := by
  have hpad : d.bytes <+: d.align.bytes := List.prefix_append _ _
  cases trees with
  | nil =>
    -- What is written last is left unpadded, so the draft itself is the result.
    have hwrite : Put.writeOn (puts []) d = .ok d := by
      rw [puts]
      rfl
    refine ⟨d, hwrite, List.prefix_rfl, ?_⟩
    rw [wires_nil]
    exact List.drop_eq_nil_of_le hpad.length_le
  | cons t rest =>
    refine ⟨_, writeOn_puts_cons h d, hpad.trans (List.prefix_append _ _), ?_⟩
    exact List.drop_left

namespace TunnelFields

/-- What comes back of the fields of a tunnel and of the choice among them. Octets come back if they
are chosen, and as zeros otherwise; a flag comes back if it is set and chosen. Found are the octets
that are chosen and the flags that come back. -/
structure Selected (f : TunnelFields) (p : TunnelPresence) (f' : TunnelFields)
    (p' : TunnelPresence) : Prop where
  id : f'.id = if p.id then f.id else .fill 8 0
  source : f'.source = if p.source then f.source else .fill 4 0
  destination : f'.destination = if p.destination then f.destination else .fill 4 0
  tos : f'.tos = if p.tos then f.tos else 0
  ttl : f'.ttl = if p.ttl then f.ttl else 0
  dontFragment : f'.dontFragment = true ↔ f.dontFragment = true ∧ p.dontFragment = true
  checksum : f'.checksum = true ↔ f.checksum = true ∧ p.checksum = true
  finds_id : p'.id = p.id
  finds_source : p'.source = p.source
  finds_destination : p'.destination = p.destination
  finds_tos : p'.tos = p.tos
  finds_ttl : p'.ttl = p.ttl
  finds_dontFragment : p'.dontFragment = f'.dontFragment
  finds_checksum : p'.checksum = f'.checksum

variable (f : TunnelFields) (p : TunnelPresence)

theorem selected_restrict : Selected f p (f.restrict p) (f.written p) where
  id := rfl
  source := rfl
  destination := rfl
  tos := rfl
  ttl := rfl
  dontFragment := by rw [restrict, Bool.and_eq_true, and_comm]
  checksum := by rw [restrict, Bool.and_eq_true, and_comm]
  finds_id := rfl
  finds_source := rfl
  finds_destination := rfl
  finds_tos := rfl
  finds_ttl := rfl
  finds_dontFragment := rfl
  finds_checksum := rfl

/-- **What is selected comes back.** Whatever the fields of a tunnel are and whichever of them are
chosen, they can be written on any draft, which stays as it is, and what is written is read as the
fields that were chosen and the flags among them that are set. -/
theorem selected_comes_back (d : Draft) :
    ∃ d', Put.writeOn (AttributeTree.puts (f.trees p)) d = .ok d' ∧ d.bytes <+: d'.bytes ∧
      ∃ f' p', parse (d'.bytes.drop d.align.length) = .ok (f', p') ∧ Selected f p f' p' := by
  obtain ⟨d', hwrite, hstays, hbehind⟩ :=
    AttributeTree.exists_writeOn_puts (f.fitAll_trees p) d
  refine ⟨d', hwrite, hstays, f.restrict p, f.written p, ?_, f.selected_restrict p⟩
  rw [hbehind]
  exact f.parse_wires_trees p

/-- A field that is not chosen is lost, one of zeros that is chosen is found, and a flag that is
chosen but not set is neither. -/
example : parse (AttributeTree.wires (trees { zero with tos := 3, ttl := 64 }
    { source := true, ttl := true, checksum := true })) =
      .ok ({ zero with ttl := 64 }, { source := true, ttl := true }) := by
  cbv

end TunnelFields

end VSwitch

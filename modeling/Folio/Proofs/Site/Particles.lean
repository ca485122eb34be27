import Folio.Proofs.Json.Tree
import Folio.Site.Particles

/-!
# The particle field survives its text

The text of the parameters is read by the script as one value, whatever characters the colours
have and however large the numbers are. The script looks for each parameter at the end of a path of
names. What it finds there is the parameter, so fields with one text are equal.
-/

namespace Folio.Site

open Folio.Json (IsValue Value maxNumber)

/-- Different modes have different names. -/
theorem HoverMode.name_injective : Function.Injective HoverMode.name := by
  intro mode other h
  cases mode <;> cases other <;> first | rfl | exact absurd h (by decide)

namespace ParticleField

/-- A value holds the parameters of a field and nothing else: the objects in it have the names that
the script knows, and at the end of every path stands the parameter it leads to. -/
structure IsHeld (field : ParticleField) (tree : Value) : Prop where
  names : tree.names = ["particles", "interactivity"]
  particles : (tree.at? ["particles"]).map Value.names =
    some ["color", "line_linked", "number", "size"]
  lines : (tree.at? ["particles", "line_linked"]).map Value.names = some ["color"]
  interactivity : (tree.at? ["interactivity"]).map Value.names = some ["events"]
  events : (tree.at? ["interactivity", "events"]).map Value.names = some ["onhover"]
  color : tree.at? ["particles", "color"] = some (.object [("value", .text field.color)])
  linkColor : tree.at? ["particles", "line_linked", "color"] =
    some (.object [("value", .text field.linkColor)])
  number : tree.at? ["particles", "number"] =
    some (.object [("value", .number field.number.toNat)])
  size : tree.at? ["particles", "size"] = some (.object [("value", .number field.size.toNat)])
  hover : tree.at? ["interactivity", "events", "onhover"] =
    some (.object [("enable", .flag field.reacts), ("mode", .text field.mode.name)])

/-- The value that is printed for a field holds its parameters. -/
theorem isHeld_value (field : ParticleField) : field.IsHeld field.value := by
  constructor <;> rfl

/-- A value holds the parameters of one field at most. -/
theorem IsHeld.unique {field other : ParticleField} {tree : Value} (h : field.IsHeld tree)
    (hother : other.IsHeld tree) : field = other := by
  have hcolor : field.color = other.color := by
    simpa using h.color.symm.trans hother.color
  have hlink : field.linkColor = other.linkColor := by
    simpa using h.linkColor.symm.trans hother.linkColor
  have hnumber : field.number = other.number := by
    simpa [UInt32.toNat_inj] using h.number.symm.trans hother.number
  have hsize : field.size = other.size := by
    simpa [UInt32.toNat_inj] using h.size.symm.trans hother.size
  have hhover : field.reacts = other.reacts ∧ field.mode.name = other.mode.name := by
    simpa using h.hover.symm.trans hother.hover
  have hmode := HoverMode.name_injective hhover.2
  cases field
  cases other
  simp_all

/-- A number of 32 bits is kept exactly. -/
theorem toNat_le_maxNumber (n : UInt32) : n.toNat ≤ maxNumber :=
  Nat.le_trans (Nat.le_of_lt n.toNat_lt) (by decide)

/-- The numbers in the value of a field are kept exactly. -/
theorem isExact_value (field : ParticleField) : field.value.IsExact := by
  have hnumber := toNat_le_maxNumber field.number
  have hsize := toNat_le_maxNumber field.size
  simp [value, member, hnumber, hsize]

/-- Every field survives its text: the text is JSON, it is read as one value with nothing behind it,
and that value holds the parameters of the field and nothing else. So no two fields share a text. -/
theorem particles_survive_text :
    (∀ field : ParticleField, IsValue field.text.toList ∧
      ∃ tree, Value.read (field.text.toList.map some) = .ok (tree, []) ∧ field.IsHeld tree) ∧
    Function.Injective text := by
  constructor
  · intro field
    rw [text, String.toList_ofList]
    have hexact := field.isExact_value
    exact ⟨hexact.isValue, field.value, hexact.read_print, field.isHeld_value⟩
  · intro field other htext
    have hprint : field.value.print = other.value.print := String.ofList_injective htext
    have hvalue := field.isExact_value.eq_of_print_eq other.isExact_value hprint
    exact field.isHeld_value.unique (hvalue ▸ other.isHeld_value)

end ParticleField

end Folio.Site

namespace Dataflow

/-!
# Strict total orders

The one ordering law that sorted sets and sorted maps need.  Natural numbers and strings are ordered
as usual; lists are ordered lexicographically, a proper initial segment coming first.
-/

/-- The strict order of the type is irreflexive, transitive and connects any two distinct elements. -/
class StrictTotal (Element : Type) [LT Element] : Prop where
  irrefl : ∀ element : Element, ¬ element < element
  trans : ∀ {first second third : Element}, first < second → second < third → first < third
  connected : ∀ {first second : Element}, ¬ first < second → ¬ second < first → first = second

namespace StrictTotal

variable {Element : Type} [LT Element] [StrictTotal Element]

theorem asymm
    {first second : Element}
    (before : first < second) :
    ¬ second < first :=
  fun after => irrefl first (trans before after)

theorem ne_of_lt
    {first second : Element}
    (before : first < second) :
    first ≠ second := by
  rintro rfl
  exact irrefl first before

instance : StrictTotal Nat where
  irrefl := Nat.lt_irrefl
  trans := Nat.lt_trans
  connected := by omega

instance : StrictTotal String where
  irrefl := String.lt_irrefl
  trans := String.lt_trans
  connected notBefore notAfter := String.le_antisymm notAfter notBefore

instance : StrictTotal (List Element) where
  irrefl :=
    haveI : Std.Irrefl (α := Element) (· < ·) := ⟨irrefl⟩
    List.lt_irrefl
  trans :=
    haveI : Trans (α := Element) (· < ·) (· < ·) (· < ·) := ⟨trans⟩
    List.lt_trans
  connected notBefore notAfter :=
    haveI : Std.Trichotomous (α := Element) (· < ·) := ⟨fun _ _ => connected⟩
    List.le_antisymm notAfter notBefore

end StrictTotal

end Dataflow

import Folio.Text.CaseFold
import Folio.Text.CharSet

/-!
# Simple case folding

Characters that differ only in case form an orbit: they are those that fold to one and the same
character. A set that is closed under case holds with each character its whole orbit.
-/

namespace Folio.Text

/-- The simple foldings that full folding does not give: either it gives several characters, or none
at all. The entries are as in the table of full folding. -/
def simpleFoldTable : String :=
  "1E9E:DF 1F88-1F8F:1F80 1F98-1F9F:1F90 1FA8-1FAF:1FA0 1FBC:1FB3 1FCC:1FC3 1FD3:390 1FE3:3B0
   1FFC:1FF3 FB05:FB06"

/-- The characters that fold to another one, with that one. -/
def simpleFolds : List (Nat × Nat) :=
  ((CodePoints.words foldTable.toList []) ++ (CodePoints.words simpleFoldTable.toList [])).flatMap
    fun word => (foldEntry word).filterMap fun (source, targets) =>
      match targets with
      | [target] => some (source, target.toNat)
      | _ => none

/-- The characters that fold to a character, for each character that some other folds to. -/
def foldSources : Std.HashMap Nat (List Nat) :=
  simpleFolds.foldl (fun sources (source, target) =>
    sources.alter target fun known => some (source :: known.getD [])) ∅

/-- What a character folds to, for each character that folds to another. -/
def foldTargets : Std.HashMap Nat Nat := Std.HashMap.ofList simpleFolds

/-- The code points whose orbits have several members. -/
def orbitTable : List (Nat × List Nat) :=
  foldSources.toList.flatMap fun (target, sources) =>
    let orbit := target :: sources
    orbit.map fun n => (n, orbit)

/-- The orbit of a code point beyond ASCII. -/
def wideOrbit (n : Nat) : List Nat :=
  let target := (foldTargets[n]?).getD n
  target :: (foldSources[target]?).getD []

/-- The orbit of a code point. An ASCII letter has its other case, and two of them a sign of their
own. -/
def orbit (n : Nat) : List Nat :=
  if n < 128 then
    let c := Char.ofNat n
    if c.isAlpha then
      let cases := [c.toUpper.toNat, c.toLower.toNat]
      if c.toLower = 'k' then cases ++ [0x212A]
      else if c.toLower = 's' then cases ++ [0x17F]
      else cases
    else [n]
  else wideOrbit n

namespace CharSet

/-- The smallest set with a set's characters that is closed under case. -/
def closeCase (s : CharSet) : CharSet :=
  let points := s.toCodePoints
  let more := orbitTable.flatMap fun (n, orbit) =>
    if points.containsCode n then orbit.map fun m => CodeRange.mk m m else []
  ofRanges (s.ranges ++ more)

/-- The smallest set with a set's characters that is closed under the case of ASCII letters. -/
def closeAsciiCase (s : CharSet) : CharSet :=
  let letters := (List.range 128).filter fun n => (Char.ofNat n).isAlpha && s.containsCode n
  ofRanges (s.ranges ++ letters.flatMap fun n =>
    let c := Char.ofNat n
    [⟨c.toUpper.toNat, c.toUpper.toNat⟩, ⟨c.toLower.toNat, c.toLower.toNat⟩])

/-- The orbit of a code point as a set. -/
def ofOrbit (n : Nat) : CharSet := ofRanges ((orbit n).map fun m => ⟨m, m⟩)

end CharSet

end Folio.Text

import ConfigAuditor.Errors
import ConfigAuditor.Library.Regex

/-!
# Software versions

`VersionConstraint` of `app.profile_resolution.registry`: the numeric part of a version text
and the versions a profile supports. Python refuses to read a number of more than 4300 digits.
-/
namespace ConfigAuditor.ProfileResolution

open Library

/-- A frozen set is a list here; only membership is asked. -/
structure VersionConstraint where
  supportedMajorVersions : List Nat := []
  minimumVersion : Option (List Nat) := none
  maximumVersion : Option (List Nat) := none
  excludedVersions : List String := []
  deriving DecidableEq

namespace VersionConstraint

open Regex

/-- `\d+(?:\.\d+)*`. -/
def numericPattern : Regex :=
  .seq (plus digit) (star (.seq (.chars (· == '.')) (plus digit)))

/-- `\d+(?:\.\d+)*[A-Za-z0-9.-]*`; case counts here. -/
def versionPattern : Regex :=
  .seq numericPattern
    (star (.chars fun c => Text.isAsciiAlnum c || c == '.' || c == '-'))

/-- No pattern of a version asks for word boundaries. -/
def noWords (_ : Char) : Bool := false

/-- The numeric part of a version. -/
def numericPart (version : List Char) : List Char :=
  ((matchStart noWords (.group 1 numericPattern) version).bind (·.group? 1)).getD []

/-- `VersionConstraint.parse`. -/
def parse (version : String) : Except Error (Option (List Nat)) :=
  if version.isEmpty || !fullMatch noWords versionPattern version.toList then .ok none
  else do
    let numbers ← (Text.splitAll '.' (numericPart version.toList)).mapM fun item =>
      (PyValue.intOfText (String.ofList item)).mapError Error.python
    return some (numbers.map Int.toNat)

/-- `".".join(str(item) for item in parsed)`. -/
def normalized (parsed : List Nat) : String := Text.join "." (parsed.map toString)

/-- `VersionConstraint.accepts`. -/
def accepts (constraint : VersionConstraint) (version : String) : Except Error Bool := do
  match ← parse version with
  | none => return false
  | some parsed =>
    if constraint.excludedVersions.contains (normalized parsed) ||
        constraint.excludedVersions.contains version then return false
    else if !constraint.supportedMajorVersions.isEmpty &&
        !(parsed.head?.any constraint.supportedMajorVersions.contains) then return false
    else
      let lower := constraint.minimumVersion.any fun least =>
        !least.isEmpty && decide (parsed.take least.length < least)
      let upper := constraint.maximumVersion.any fun most =>
        !most.isEmpty && decide (most < parsed.take most.length)
      return !(lower || upper)

example : parse "17.09.04a" = .ok (some [17, 9, 4]) := by decide +kernel

theorem intOfText_error {text : String} {e : PyError} (h : PyValue.intOfText text = .error e) :
    e = .valueError := by
  unfold PyValue.intOfText at h
  dsimp only at h
  split at h
  · split at h
    · split at h
      · cases h
      · exact (Except.error.inj h).symm
    · exact (Except.error.inj h).symm
  · exact (Except.error.inj h).symm

/-- The only exception is `int` refusing a number. -/
theorem parse_error {version : String} {error : Error} (h : parse version = .error error) :
    error = .python .valueError := by
  unfold parse at h
  split at h
  · cases h
  · cases hnumbers : (Text.splitAll '.' (numericPart version.toList)).mapM fun item =>
        (PyValue.intOfText (String.ofList item)).mapError Error.python with
    | ok numbers =>
      rw [hnumbers] at h
      cases h
    | error e =>
      rw [hnumbers] at h
      obtain ⟨item, -, hitem⟩ := mapM_eq_error hnumbers
      cases hint : PyValue.intOfText (String.ofList item) with
      | ok n =>
        rw [hint] at hitem
        cases hitem
      | error e' =>
        rw [hint] at hitem
        rw [← Except.error.inj h, ← Except.error.inj hitem, intOfText_error hint]

theorem accepts_error {constraint : VersionConstraint} {version : String} {error : Error}
    (h : constraint.accepts version = .error error) : error = .python .valueError := by
  unfold accepts at h
  cases hparse : parse version with
  | error e =>
    rw [hparse] at h
    rw [← Except.error.inj h, parse_error hparse]
  | ok parsed =>
    rw [hparse] at h
    cases parsed with
    | none => cases h
    | some parsed =>
      simp only [bind, Except.bind] at h
      split at h
      · cases h
      · split at h <;> cases h

end VersionConstraint

end ConfigAuditor.ProfileResolution

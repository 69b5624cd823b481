import ComponentStyles.Url.Domain.Label

/-!
Domains: names of hosts that people write in their own script.
-/

namespace ComponentStyles.Url.Domain

/-- The characters of ASCII that no domain holds, besides blanks and control characters. -/
def forbidden : Text :=
  ['%', '#', '/', ':', '<', '>', '?', '@', '[', '\\', ']', '^', '|']

/-- Whether a character must not be in a mapped domain. -/
def isForbidden (c : Char) : Bool :=
  c.toNat ≤ 0x20 || c.toNat == 0x7F || forbidden.contains c

/-- The labels that the labels of a mapped domain stand for, if all stand for some. -/
def meanings? : List Text → Option (List Text)
  | [] => some []
  | label :: rest =>
      match meaning? label, meanings? rest with
      | some meaning, some meanings => some (meaning :: meanings)
      | _, _ => none

/-- Whether labels may stand in a domain together. -/
def areLabels (labels : List Text) : Bool :=
  labels.all isLabel && (!labels.any isBidirectional || labels.all isOrdered)

/-- What a text is mapped to when it is read as a domain. Text in ASCII has nothing to
normalize. -/
def mapped? (text : Text) : Option Text :=
  if text.all isAscii then some (Text.lower text) else (map? text).map normalize

/-- The mapped domain that a text stands for, if it is one. -/
def ofText? (text : Text) : Option Text :=
  (mapped? text).filter fun domain =>
    !domain.any isForbidden && (meanings? (Text.splitOn '.' domain)).any areLabels

end ComponentStyles.Url.Domain

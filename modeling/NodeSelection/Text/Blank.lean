import NodeSelection.Text.CodeRange

/-!
Blank characters: the Unicode property `White_Space`, 25 characters in all.

Look-alikes without the property stay ordinary characters: the information
separators U+001C to U+001F, the zero width space U+200B and the byte order
mark U+FEFF.
-/

namespace NodeSelection.Text

/-- The code points with the property `White_Space`. -/
def blankRanges : List CodeRange :=
  [⟨0x09, 0x0D⟩, ⟨0x20, 0x20⟩, ⟨0x85, 0x85⟩, ⟨0xA0, 0xA0⟩, ⟨0x1680, 0x1680⟩,
   ⟨0x2000, 0x200A⟩, ⟨0x2028, 0x2029⟩, ⟨0x202F, 0x202F⟩, ⟨0x205F, 0x205F⟩, ⟨0x3000, 0x3000⟩]

/-- The character separates words. -/
def isBlank (c : Char) : Bool := inRanges blankRanges c.toNat

example : (blankRanges.map fun r => r.last + 1 - r.first).sum = 25 := by decide

example : [0x1B, 0x1C, 0x1F, 0x200B, 0xFEFF].all (fun n => !inRanges blankRanges n) := by decide

end NodeSelection.Text

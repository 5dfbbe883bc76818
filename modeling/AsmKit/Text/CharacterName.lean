/-! The characters that can be given by their names. -/

namespace AsmKit.Text

/-- The code points of characters by name. Which names there are, and whether the case of their
letters matters, is for whoever has a table of them to say. -/
class CharacterNames where
  code? : String → Option Nat

namespace Nameless

/-- No character can be given by its name. -/
scoped instance : CharacterNames := ⟨fun _ => none⟩

end Nameless

end AsmKit.Text

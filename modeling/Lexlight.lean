import Lexlight.Unicode.Word
import Lexlight.Unicode.Blank
import Lexlight.Unicode.Printable
import Lexlight.Unicode.Identifier
import Lexlight.Unicode.CaseFold
import Lexlight.Unicode.Lowercase
import Lexlight.Unicode.CharacterNames
import Lexlight.Quoted
import Lexlight.Source
import Lexlight.Value
import Lexlight.Pattern.Basic
import Lexlight.Pattern.Match
import Lexlight.Pattern.Fault
import Lexlight.Pattern.Part
import Lexlight.Pattern.Reading.Basic
import Lexlight.Pattern.Reading.Escape
import Lexlight.Pattern.Reading.Flag
import Lexlight.Pattern.Reading.Read
import Lexlight.Category
import Lexlight.Failure
import Lexlight.Grammar.Basic
import Lexlight.Grammar.Compile
import Lexlight.Scan.Basic
import Lexlight.Scan.Cursor
import Lexlight.Scan.Turns
import Lexlight.Detection
import Lexlight.Highlight
import Lexlight.LinkerScript
import Lexlight.LogName
import Lexlight.Session
import Lexlight.Pattern.Bounds
import Lexlight.Proofs.Grammar.Compiled
import Lexlight.Proofs.Pattern.NamedCharacters
import Lexlight.Proofs.Grammar.NamedCharacters
import Lexlight.Proofs.Scan.Cover
import Lexlight.Proofs.Scan.Gather
import Lexlight.Proofs.LinkerScript.Exclusive
import Lexlight.Proofs.LinkerScript.Sound
import Lexlight.Proofs.LinkerScript.Seam
import Lexlight.Proofs.LinkerScript.Alone
import Lexlight.Proofs.Markup.Reading
import Lexlight.Proofs.Markup.Lines
import Lexlight.Proofs.Registry.Builder
import Lexlight.Proofs.Registry.Run
import Lexlight.Proofs.Markup.Highlighted
import Lexlight.Proofs.Markup.LanguageClass
import Lexlight.Proofs.Pattern.Entries
import Lexlight.Proofs.Grammar.Words
import Lexlight.Proofs.Pattern.Caseless
import Lexlight.Proofs.Pattern.CaselessReading
import Lexlight.Proofs.Grammar.Caseless
import Lexlight.Proofs.Scan.Turns
import Lexlight.Proofs.Registry.Languages
import Lexlight.Proofs.Session.Requests
import Lexlight.Proofs.Session.SharedRegistry
import Lexlight.Proofs.Pattern.Takes
import Lexlight.Proofs.Pattern.Written
import Lexlight.Proofs.Pattern.StringEnd
import Lexlight.Proofs.Grammar.Enclosed
import Lexlight.Proofs.LinkerScript.Munch
import Lexlight.Proofs.Grammar.LongestEntry
import Lexlight.Proofs.LinkerScript.WordEdges
import Lexlight.Proofs.Grammar.Weights
import Lexlight.Proofs.Source.Words
import Lexlight.Proofs.Grammar.Groups
import Lexlight.Proofs.Registry.Detected
import Lexlight.Proofs.Grammar.WholeWords
import Lexlight.Proofs.Pattern.WrittenEntries
import Lexlight.Proofs.Grammar.Faults
import Lexlight.Proofs.Grammar.Refused
import Lexlight.Proofs.Grammar.SameEntries
import Lexlight.Proofs.Unicode.Folding
import Lexlight.Proofs.Grammar.ListedLiterals
import Lexlight.Proofs.Session.View
import Lexlight.Proofs.Session.Program
import Lexlight.Proofs.Session.SettingsBlocks

import ClangHost.Text.Quoted
import ClangHost.Toml.Excerpt

/-!
What can go wrong between the host and the engine, by cause, and the wording of each cause. How
the parser words that a text is no document is left to whoever shows the error.
-/
namespace ClangHost

inductive MarshalFault where
  /-- A text holds the NUL byte; the offset of the first one. -/
  | nulAt (offset : Nat)
  | nulInPath
  | tooManyArguments (count : Nat)
  | other (reason : String)
  deriving DecidableEq, Repr

def MarshalFault.message : MarshalFault → String
  | .nulAt offset => "interior NUL byte at offset " ++ toString offset
  | .nulInPath => "interior NUL byte in path"
  | .tooManyArguments count => toString count ++ " arguments exceed the engine limit"
  | .other reason => reason

inductive HandleKind where
  | index
  | translationUnit
  | cursor
  | completionResults
  deriving DecidableEq, Repr

def HandleKind.phrase : HandleKind → String
  | .index => "index"
  | .translationUnit => "translation unit"
  | .cursor => "cursor"
  | .completionResults => "completion results"

inductive SchemaFault where
  | missingField
  | fieldOffset (found expected : UInt64)
  | recordSize (found expected : UInt64)
  | recordAlign (found expected : UInt64)
  | nullRecords (count : UInt64)
  | misaligned (base align : UInt64)
  | overflow (count size : UInt64)
  | nullString (record : Nat)
  | availability (record : Nat) (value : Int32)
  | chunkCount (record : Nat) (count limit : UInt32)
  | other (reason : String)
  deriving DecidableEq, Repr

def addressText (a : UInt64) : String := "0x" ++ String.ofList (Text.hexDigits a.toNat)

def SchemaFault.message : SchemaFault → String
  | .missingField => "record has no CompletionString field"
  | .fieldOffset found expected =>
    "CompletionString at offset " ++ toString found ++ ", expected " ++ toString expected
  | .recordSize found expected =>
    "record size " ++ toString found ++ " bytes, expected " ++ toString expected
  | .recordAlign found expected =>
    "record alignment " ++ toString found ++ ", expected " ++ toString expected
  | .nullRecords count => toString count ++ " results reported with a null record array"
  | .misaligned base align =>
    "record array at " ++ addressText base ++ " is not aligned to " ++ toString align ++ " bytes"
  | .overflow count size =>
    toString count ++ " records of " ++ toString size ++ " bytes overflow the address space"
  | .nullString record => "record " ++ toString record ++ " has a null CompletionString"
  | .availability record value =>
    "record " ++ toString record ++ " reports availability " ++ toString value.toInt
      ++ ", expected 0..=3"
  | .chunkCount record count limit =>
    "record " ++ toString record ++ " reports " ++ toString count ++ " chunks, limit is "
      ++ toString limit
  | .other reason => reason

inductive LoadFault where
  | invalidName
  | failed (path : Bytes) (reason : String)
  deriving DecidableEq, Repr

def shown (bs : Bytes) : String := String.ofList (Utf8.decodeLossy bs)

def LoadFault.message : LoadFault → String
  | .invalidName => "invalid library name"
  | .failed path reason => "failed to load library " ++ shown path ++ ": " ++ reason

inductive SymbolFault where
  | invalidName
  | notFound (name reason : String)
  deriving DecidableEq, Repr

def SymbolFault.message : SymbolFault → String
  | .invalidName => "invalid symbol name"
  | .notFound name reason => "symbol `" ++ name ++ "` not found: " ++ reason

inductive FileFault where
  | notFound
  | notDirectory
  | isDirectory
  | alreadyThere
  | nameTooLong
  | notText
  | nulInName
  deriving DecidableEq, Repr

def FileFault.message : FileFault → String
  | .notFound => "No such file or directory (os error 2)"
  | .notDirectory => "Not a directory (os error 20)"
  | .isDirectory => "Is a directory (os error 21)"
  | .alreadyThere => "File exists (os error 17)"
  | .nameTooLong => "File name too long (os error 36)"
  | .notText => "stream did not contain valid UTF-8"
  | .nulInName => "file name contained an unexpected NUL byte"

inductive ConfigFault where
  | unreadable (path : Bytes) (cause : FileFault)
  | malformed (source : String)
  | shape (source : String) (cause : Document.Mismatch) (span : Option Document.Span)
  deriving DecidableEq, Repr

/-- What is said of a text that breaks a rule of its format. -/
abbrev Wording := String → String

def ConfigFault.message (w : Wording) : ConfigFault → String
  | .unreadable path cause => "failed to read " ++ shown path ++ ": " ++ cause.message
  | .malformed source => "failed to parse config: " ++ w source
  | .shape source cause span =>
    "failed to parse config: " ++
      match span with
      | some span => Toml.excerpt source.toList span cause.message
      | none => cause.message ++ "\n"

inductive Error where
  | allocation (what : String) (cause : MarshalFault)
  | invalidHandle (kind : HandleKind)
  | schemaMismatch (cause : SchemaFault)
  | resultDisposal
  | load (cause : LoadFault)
  | symbol (cause : SymbolFault)
  | config (cause : ConfigFault)
  deriving DecidableEq, Repr

namespace Error

def message (w : Wording) : Error → String
  | .allocation what cause => "failed to marshal " ++ what ++ ": " ++ cause.message
  | .invalidHandle kind => "engine returned an invalid " ++ kind.phrase ++ " handle"
  | .schemaMismatch cause => "completion result schema mismatch: " ++ cause.message
  | .resultDisposal => "completion results were already disposed"
  | .load cause => cause.message
  | .symbol cause => cause.message
  | .config cause => "configuration error: " ++ cause.message w

def isSchemaMismatch : Error → Bool
  | .schemaMismatch _ => true
  | _ => false

def debug (w : Wording) : Error → String
  | .allocation what cause =>
    "Allocation \x7b what: " ++ Text.quoted what ++ ", reason: " ++ Text.quoted cause.message
      ++ " \x7d"
  | .invalidHandle kind =>
    "InvalidHandle \x7b what: " ++ Text.quoted kind.phrase ++ " \x7d"
  | .schemaMismatch cause =>
    "SchemaMismatch \x7b reason: " ++ Text.quoted cause.message ++ " \x7d"
  | .resultDisposal => "ResultDisposal"
  | .load .invalidName => "Load(InvalidName)"
  | .load (.failed path reason) =>
    "Load(LoadFailed \x7b path: " ++ Text.Quoting.path.bytes path ++ ", reason: "
      ++ Text.quoted reason ++ " \x7d)"
  | .symbol .invalidName => "Symbol(InvalidName)"
  | .symbol (.notFound name reason) =>
    "Symbol(NotFound \x7b name: " ++ Text.quoted name ++ ", reason: " ++ Text.quoted reason
      ++ " \x7d)"
  | .config cause => "Config \x7b reason: " ++ Text.quoted (cause.message w) ++ " \x7d"

end Error
end ClangHost

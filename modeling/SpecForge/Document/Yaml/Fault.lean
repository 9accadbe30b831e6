import SpecForge.Document.Display

/-!
# What is wrong with a YAML text

A fault names the part of the reading that failed. Its wording says what was being read; of faults
that have a context only the context is told.
-/

namespace SpecForge.Yaml

/-- What is made of characters. -/
inductive Lexeme where
  | simpleKey
  | token
  | directive
  | alias
  | anchor
  | tag
  | blockScalar
  | quotedScalar
  | doubleQuotedScalar
deriving DecidableEq

/-- The words for a lexeme after "while scanning". -/
def Lexeme.words : Lexeme → String
  | .simpleKey => "a simple key"
  | .token => "for the next token"
  | .directive => "a directive"
  | .alias => "an alias"
  | .anchor => "an anchor"
  | .tag => "a tag"
  | .blockScalar => "a block scalar"
  | .quotedScalar => "a quoted scalar"
  | .doubleQuotedScalar => "a double-quoted scalar"

/-- What is made of tokens. -/
inductive Phrase where
  | tag
  | directive
  | node
  | blockNode
  | flowNode
  | blockCollection
  | blockMapping
  | flowSequence
  | flowMapping
deriving DecidableEq

/-- The words for a phrase after "while parsing". -/
def Phrase.words : Phrase → String
  | .tag => "a tag"
  | .directive => "a directive"
  | .node => "a node"
  | .blockNode => "a block node"
  | .flowNode => "a flow node"
  | .blockCollection => "a block collection"
  | .blockMapping => "a block mapping"
  | .flowSequence => "a flow sequence"
  | .flowMapping => "a flow mapping"

/-- The three shapes of a node. -/
inductive Shape where
  | scalar
  | sequence
  | mapping
deriving DecidableEq

/-- The word for a shape. -/
def Shape.word : Shape → String
  | .scalar => "scalar"
  | .sequence => "sequence"
  | .mapping => "mapping"

/-- Why a text holds no document. -/
inductive Fault where
  /-- A character that no text may hold. -/
  | character (c : Char)
  | scanning (lexeme : Lexeme)
  | parsing (phrase : Phrase)
  | misplacedEntry
  | misplacedKey
  | misplacedValue
  | noDocumentStart (found : String)
  | repeatedVersion
  | foreignVersion
  | repeatedHandle (handle : String)
  | undefinedAlias (name : String)
  | repeatedAnchor (name : String)
  | manyDocuments
  | unknownTag (tag : String)
  | wrongShape (wanted found : Shape)
  | mapping
  | orderedMap
  | pairs
  | notAscii (reason : String)
  | notBase64 (reason : String)
  /-- A scalar that is no number or day, or a code point that there is not. -/
  | unreadNumber
  /-- A number of which nothing but a sign is written. -/
  | emptyNumeral
  /-- A word that is no truth value. -/
  | unknownWord
  /-- A scalar that is not written as a moment. -/
  | unreadMoment
  /-- A moment whose text stands inside a mapping. -/
  | textInside
  /-- A code point too large for any counting. -/
  | hugeCodePoint
  /-- So many sixties that no double counts them. -/
  | hugeSixties
  /-- Collections that lie too deep in each other. -/
  | depth
deriving DecidableEq

/-- The wording of a fault. The last eight kinds stop a reading without a wording of their own. -/
def Fault.message : Fault → String
  | .character c =>
    "unacceptable character #x" ++ Text.hexFilled 4 c.toNat ++
      ": special characters are not allowed"
  | .scanning lexeme => "while scanning " ++ lexeme.words
  | .parsing phrase => "while parsing " ++ phrase.words
  | .misplacedEntry => "sequence entries are not allowed here"
  | .misplacedKey => "mapping keys are not allowed here"
  | .misplacedValue => "mapping values are not allowed here"
  | .noDocumentStart found => "expected '<document start>', but found " ++ Text.shown found
  | .repeatedVersion => "found duplicate YAML directive"
  | .foreignVersion => "found incompatible YAML document (version 1.* is required)"
  | .repeatedHandle handle => "duplicate tag handle " ++ Text.shown handle
  | .undefinedAlias name => "found undefined alias " ++ Text.shown name
  | .repeatedAnchor name => "found duplicate anchor " ++ Text.shown name ++ "; first occurrence"
  | .manyDocuments => "expected a single document in the stream"
  | .unknownTag tag => "could not determine a constructor for the tag " ++ Text.shown tag
  | .wrongShape wanted found =>
    "expected a " ++ wanted.word ++ " node, but found " ++ found.word
  | .mapping => "while constructing a mapping"
  | .orderedMap => "while constructing an ordered map"
  | .pairs => "while constructing pairs"
  | .notAscii reason => "failed to convert base64 data into ascii: " ++ reason
  | .notBase64 reason => "failed to decode base64 data: " ++ reason
  | .unreadNumber => "the text is no number"
  | .emptyNumeral => "the text is empty"
  | .unknownWord => "the word is no truth value"
  | .unreadMoment => "the text is no moment"
  | .textInside => "the text stands inside a mapping"
  | .hugeCodePoint => "the code point is too large"
  | .hugeSixties => "there are too many sixties"
  | .depth => "there are too many levels"

end SpecForge.Yaml

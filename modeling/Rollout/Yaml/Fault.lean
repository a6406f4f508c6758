/-
What can be wrong with a YAML text.
-/
namespace Rollout
namespace Yaml

inductive Fault where
  | indentation
  | tabIndentation
  | unexpected (found : String)
  | missing (wanted : String)
  | missingSpace
  | unterminated
  | badEscape
  | badStart (found : Char)
  | keyOverLines
  | keyTooLong
  | nestedOnOneLine
  | blockInFlow
  | duplicateKey
  | duplicateEntry
  | unknownAlias (name : String)
  | excessiveAliases
  | emptyName
  | badName (name : String)
  | badTag (tag : String)
  | badForm (tag : String)
  | repeatedProperty
  | aliasProperty
  | misplacedProperty
  | misplacedComment
  | blockHeader
  | directive
  | severalDocuments
  | badMerge
  | tooDeep
  deriving DecidableEq

def Fault.message : Fault → String
  | .indentation => "a line is indented wrongly"
  | .tabIndentation => "tabs are not allowed as indentation"
  | .unexpected found => "unexpected " ++ found
  | .missing wanted => wanted ++ " is missing"
  | .missingSpace => "white space is missing behind a property or before a comment"
  | .unterminated => "a quote or a flow collection is not closed"
  | .badEscape => "an escape sequence is invalid"
  | .badStart found => "a plain scalar cannot start with " ++ found.toString
  | .keyOverLines => "a key has to be on a single line"
  | .keyTooLong => "a key is too long"
  | .nestedOnOneLine => "nested block collections cannot share a line with a key"
  | .blockInFlow => "block collections are not allowed inside flow collections"
  | .duplicateKey => "keys have to be unique"
  | .duplicateEntry => "an ordered mapping has no key twice"
  | .unknownAlias name => "the alias " ++ name ++ " names no anchor"
  | .excessiveAliases => "aliases repeat too much of the text"
  | .emptyName => "an anchor or alias has no name"
  | .badName name => "the anchor " ++ name ++ " cannot be written in a key"
  | .badTag tag => "the tag " ++ tag ++ " cannot be resolved"
  | .badForm tag => "a node does not have the form of its tag " ++ tag
  | .repeatedProperty => "a node has one anchor and one tag at most"
  | .aliasProperty => "an alias has no properties"
  | .misplacedProperty => "properties stand at a wrong place"
  | .misplacedComment => "a comment stands before further entries"
  | .blockHeader => "the header of a block scalar is invalid"
  | .directive => "a directive is invalid or not followed by a document start"
  | .severalDocuments => "the text holds several documents"
  | .badMerge => "only mappings can be merged"
  | .tooDeep => "the text is nested too deeply"

end Yaml
end Rollout

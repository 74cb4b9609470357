/-!
# Tags

A tag is known by its octets, which need not be a text. A zero octet ends a tag, whatever comes
after it.
-/

namespace CompletionService.Yaml

/-- A tag, as octets. -/
abbrev Tag := List UInt8

namespace Tag

/-- The tag with these octets. -/
def ofOctets (octets : List UInt8) : Tag := octets.takeWhile (· != 0)

/-- The tag with this text. -/
def ofText (text : String) : Tag := ofOctets (text.toList.flatMap String.utf8EncodeChar)

/-- The tag of the core schema with this name. -/
def core (name : String) : Tag := ofText ("tag:yaml.org,2002:" ++ name)

/-- The tag of the document itself that has no name. -/
def anonymous : Tag := ofText "!"

/-- A tag of the document itself, and not of a schema. -/
def isLocal (tag : Tag) : Bool := tag.take 1 == anonymous

/-- A tag of the document itself whose name is a text. -/
def isNamed (tag : Tag) : Bool :=
  tag.isLocal && (String.fromUTF8? ⟨(tag.drop 1).toArray⟩).isSome

end Tag

end CompletionService.Yaml

import CloudControl.Schema.CodeEnums
import CloudControl.Schema.TextEnums

/-!
# Tags

Tags are pairs of a key and a value on resources.
-/

namespace CloudControl.Schema

namespace Kind

/-- A tag within the resource it belongs to. -/
def resourceTag : Kind :=
  .record "ResourceTag" [
    ("key", .optionalText .fromObjects), ("value", .optionalText .fromObjects),
    ("resourcetype", .optionalText), ("resourceid", .optionalText),
    ("account", .optionalText .fromObjects), ("domain", .optionalText .fromObjects),
    ("domainid", .optionalText), ("project", .optionalText .fromObjects),
    ("projectid", .optionalText), ("customer", .optionalText .fromObjects)]

/-- A tag with the resource it belongs to. -/
def tag : Kind :=
  .record "Tag" [
    ("key", .text), ("value", .optionalText .fromObjects),
    ("resourcetype", .choice .resourceTagType), ("resourceid", .optionalText),
    ("account", .optionalText .fromObjects), ("domain", .optionalText .fromObjects),
    ("domainid", .optionalText), ("project", .optionalText .fromObjects),
    ("projectid", .optionalText), ("customer", .optionalText .fromObjects)]

end Kind

end CloudControl.Schema

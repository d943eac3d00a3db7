import SortPath.Model

/-!
# Sample models

People with a name whose fields are inlined, a profile, addresses and an owner account. Most external
names follow the camel-case strategy; the password hash is not serialized and the score is not stored.
-/
namespace SortPath.Sample

/-- A field without options. -/
def field (name : String) (type : TypeExpr) : Field where
  name := name
  type := type

/-- The field under an external name. -/
def Field.named (f : Field) (name : String) : Field :=
  { f with options? := some { generalAlias := some name } }

def text : TypeExpr := .scalar .text

/-- A sample model. -/
def declare (name : String) (strategy? : Option NamingStrategy) (fields : List Field) : Model :=
  .ofFields "example_models" name strategy? fields

def account : Model :=
  declare "Account" none [field "id" text, field "username" text]

def name : Model :=
  declare "Name" none
    [Field.named (field "first_name" text) "first", Field.named (field "last_name" text) "last"]

def profile : Model :=
  declare "Profile" none
    [Field.named (field "full_name" text) "displayName", field "bio" text.optional]

def address : Model :=
  declare "Address" (some .camel)
    [field "street_name" text, field "zip_code" text, field "city" text.optional]

def person : Model :=
  declare "Person" (some .camel)
    [field "id" text,
     field "name" ((TypeExpr.model "Name").annotate [.unwrapped ⟨"", "", true⟩]),
     Field.named (field "profile" (TypeExpr.model "Profile").optional) "userProfile",
     field "address" (TypeExpr.model "Address").optional,
     field "previous_addresses" (.applied .list [.model "Address"]),
     field "owner" ((TypeExpr.model "Account").optional.annotate [.association]),
     field "birth_date" (TypeExpr.scalar .date).optional,
     field "tags" (.applied .list [text]),
     { field "password_hash" text.optional with options? := some { excluded := true } },
     field "score" ((TypeExpr.scalar .float).annotate [.transient])]

def models : Models := [account, name, profile, address, person]

end SortPath.Sample

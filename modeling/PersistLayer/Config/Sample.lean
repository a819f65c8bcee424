import PersistLayer.Error
import PersistLayer.Text.Blank
import PersistLayer.Toml.Quoted
import PersistLayer.Toml.Table

/-!
# The sample of configured values

The sample shows which values a module expects and what they usually are.  Its
values stand in the table of the module, which is nested once for every segment
of the module's dotted name.  The password is always blank.
-/

namespace PersistLayer.Config

open Toml (Scalar Entries Table)

/-- Values for the module with the given segments of its name. -/
structure Sample where
  path : List String
  values : Entries Scalar
  deriving Repr, DecidableEq

namespace Sample

/-- The sample without values for a module. -/
def ofModule (name : String) : Sample :=
  ⟨(name.toList.splitOn '.').map String.ofList, []⟩

/-- Sets a value. -/
def set (sample : Sample) (key : String) (value : Scalar) : Sample :=
  { sample with values := Toml.put key value sample.values }

/-- The keys in order. -/
def keys (sample : Sample) : List String := sample.values.map Prod.fst

/-- The value of a key. -/
def value? (sample : Sample) (key : String) : Option Scalar := sample.values.lookup key

/-- The whole document. -/
def toTable (sample : Sample) : Table := .ofPath sample.path sample.values

/-- A scalar as written. -/
def writeScalar : Scalar → String
  | .string value => String.ofList (Toml.writeString value.toList)
  | .integer value => toString value

/-- A key as written. -/
def writeKey (key : String) : String := String.ofList (Toml.writeKey key.toList)

/-- The text of the document: the header of the innermost table, then a line for
each value. -/
def render (sample : Sample) : String :=
  "[" ++ ".".intercalate (sample.path.map writeKey) ++ "]\n" ++
    String.join (sample.values.map fun (key, value) =>
      writeKey key ++ " = " ++ writeScalar value ++ "\n")

end Sample

/-- The values that the sample shows for a connection. -/
def sampleValues : ConnectionDefaults → List (String × Scalar)
  | .network host port user =>
    [("host", .string host), ("port", .integer port), ("user", .string user),
      ("password", .string ""), ("database", .string "")]
  | .url url => [("url", .string url), ("user", .string ""), ("password", .string "")]

/-- The sample for a module and its database. -/
def sample (moduleName : String) (datasource : Datasource) : Except GenerationError Sample :=
  if Text.allBlank moduleName.toList then .error (.config .blankModule)
  else
    .ok ((sampleValues datasource.policy.defaults).foldl
      (fun sample (key, value) => sample.set key value) (Sample.ofModule moduleName))

end PersistLayer.Config

import Dataflow.Text.Yaml.Basic

namespace Dataflow.Text.Yaml

/-!
# YAML tokens

The words of which a document consists.  Some of them are not written but follow from the layout: where
a block starts or ends, and where a key starts that only a colon behind it shows.
-/

/-- A value with parts. -/
inductive Collection where
  | sequence
  | mapping
  deriving Repr, DecidableEq

/-- A word of a document. -/
inductive Token where
  /-- The version of the format. -/
  | version (major minor : Nat)
  /-- What a handle of tags stands for. -/
  | handle (name meaning : String)
  | documentStart
  | documentEnd
  /-- The start of a block that is indented further. -/
  | indent (collection : Collection)
  /-- The end of the innermost block. -/
  | dedent
  | opening (collection : Collection)
  | closing (collection : Collection)
  | comma
  | dash
  | key
  | colon
  | anchor (name : String)
  | reference (name : String)
  | tag (handle suffix : String)
  | scalar (style : Style) (text : String)
  deriving Repr, DecidableEq

end Dataflow.Text.Yaml

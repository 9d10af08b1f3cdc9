import OrgStacks.Yaml.Cursor

/-!
# Tokens of YAML

The words, marks and indicators of a text. Indentation shows as the starts and ends of block
collections, and a key without an indicator of its own has one put before it.
-/

set_option autoImplicit false

namespace OrgStacks.Yaml

inductive Token where
  | version (major minor : Nat)
  | tagHandle (handle lead : String)
  | documentStart | documentEnd
  | blockSeqStart | blockMapStart | blockEnd
  | flowSeqStart | flowSeqEnd | flowMapStart | flowMapEnd
  | blockEntry | flowEntry | key | value
  | aliasOf (name : String)
  | anchor (name : String)
  /-- The bytes of the suffix need not be text. -/
  | tag (handle : String) (suffix : ByteArray)
  /-- Only a plain scalar can stand for something that is not text. -/
  | scalar (text : String) (plain : Bool)
deriving Inhabited

structure Placed where
  mark : Mark
  token : Token
deriving Inhabited

end OrgStacks.Yaml

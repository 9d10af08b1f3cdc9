import OrgStacks.Config.Writer
import OrgStacks.FileSource
import OrgStacks.Json.Parser
import OrgStacks.Render.Run

/-!
# Documents of policy files

A policy file is a policy text. It is filled in for one account and then read as JSON. In it stand
the whole configuration, the ids of the account and of the parent, and the file's own variables.
-/

set_option autoImplicit false

namespace OrgStacks

structure PolicySource where
  read : String → Except Problem String

namespace PolicySource

def ofTexts (texts : NameMap String) : PolicySource where
  read path := match texts.get? path with
    | some text => .ok text
    | none => .error (.policyFileRead path "no such file")

def ofDirectory (files : FileSource) (root : FilePath) : PolicySource where
  read path := (files.read (root.join path)).mapError fun e =>
    .policyFileRead (root.join path).text e.message

end PolicySource

namespace PolicyFile

def context (file : PolicyFile) (config : Config) (account parent : Account) : Render.Frame :=
  [("config", .ofJson config.toJson), ("account", .str account.id),
    ("parent_account", .str parent.id),
    ("template_vars", .ofJson (file.vars.getD (.obj [])))]

def document (file : PolicyFile) (source : PolicySource) (config : Config)
    (account parent : Account) : Except Problem Json := do
  let text ← source.read file.path
  match Render.renderText text (file.context config account parent) with
  | .error reason => .error (.policyFileRender file.path reason)
  | .ok rendered =>
    match Json.parse? rendered with
    | some value => .ok value
    | none => .error (.policyFileJson file.path "not one JSON value")

end PolicyFile

end OrgStacks

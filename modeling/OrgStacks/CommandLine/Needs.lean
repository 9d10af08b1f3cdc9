import OrgStacks.CommandLine

/-!
# What a run reads

The files and variables that a document refers to, so that they can be looked up before a run.
-/

set_option autoImplicit false

namespace OrgStacks.CommandLine

mutual

/-- The arguments of a tag in a value, in their order. Keys are not looked at, and neither is what
stands inside a tagged value. -/
def tagArguments (name : String) : Yaml → List String
  | .tagged tag value =>
    if String.ofList (tag.toList.dropWhile (· = '!')) = name then
      (Substitution.argument? value).toList
    else []
  | .seq items => tagArgumentsOfItems name items
  | .map pairs => tagArgumentsOfPairs name pairs
  | _ => []

def tagArgumentsOfItems (name : String) : List Yaml → List String
  | [] => []
  | item :: items => tagArguments name item ++ tagArgumentsOfItems name items

def tagArgumentsOfPairs (name : String) : List (Yaml × Yaml) → List String
  | [] => []
  | (_, value) :: pairs => tagArguments name value ++ tagArgumentsOfPairs name pairs

end

/-- The document of a text, nothing when it has none. -/
def documentOf (text : String) : Yaml :=
  match Yaml.parse text with
  | .ok document => document
  | .error _ => .null

def includedFiles (document : Yaml) : List String := tagArguments "include" document

/-- The first word of each argument names a variable. -/
def variableNames (document : Yaml) : List String :=
  (tagArguments "env_var" document).filterMap fun argument =>
    (Text.words argument.toList).head?.map String.ofList

def secretsFiles (path : FilePath) : List FilePath :=
  (path.parent.getD ⟨""⟩).ancestors.map fun dir => dir.join Substitution.secretsFile

def policyFiles (c : Config) (dir : FilePath) : List FilePath :=
  (c.policies.values.filterMap (·.policyFile) ++
    c.buckets.values.filterMap fun b => b.bucketPolicy.map (·.policyFile)).map dir.join

end OrgStacks.CommandLine

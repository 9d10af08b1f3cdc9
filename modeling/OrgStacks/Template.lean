import OrgStacks.Account
import OrgStacks.Json.Value

/-!
# Stack templates

One template per account, filled by emitting resources. A resource is refused when its account is
unknown, or when its logical id or one of its output ids is already taken in that account; a refused
resource leaves every template as it was.
-/

set_option autoImplicit false

namespace OrgStacks

inductive ResourceKind where
  | managedPolicy | role | instanceProfile | group | user | bucket | bucketPolicy | trail
deriving DecidableEq, Inhabited

namespace ResourceKind

def all : List ResourceKind :=
  [managedPolicy, role, instanceProfile, group, user, bucket, bucketPolicy, trail]

def name : ResourceKind → String
  | managedPolicy => "AWS::IAM::ManagedPolicy"
  | role => "AWS::IAM::Role"
  | instanceProfile => "AWS::IAM::InstanceProfile"
  | group => "AWS::IAM::Group"
  | user => "AWS::IAM::User"
  | bucket => "AWS::S3::Bucket"
  | bucketPolicy => "AWS::S3::BucketPolicy"
  | trail => "AWS::CloudTrail::Trail"

def ofName? (text : String) : Option ResourceKind := all.find? fun k => k.name == text

end ResourceKind

structure Output where
  logicalId : String
  description : String
  value : Json
deriving Inhabited

namespace Output

def exportName (o : Output) : Json :=
  .obj [("Fn::Sub", .str ("$\x7bAWS::StackName\x7d-" ++ o.logicalId))]

def toJson (o : Output) : Json :=
  .obj [("Description", .str o.description), ("Export", .obj [("Name", o.exportName)]),
    ("Value", o.value)]

end Output

structure Resource where
  account : String
  logicalId : String
  kind : ResourceKind
  properties : NameMap Json := .empty
  retain : Bool := false
  dependsOn : Option String := none
  outputs : List Output := []

namespace Resource

def property (r : Resource) (key : String) (value : Json) : Resource :=
  { r with properties := r.properties.insert key value }

def optional (r : Resource) (key : String) (value : Option Json) : Resource :=
  match value with
  | some v => r.property key v
  | none => r

def listProperty (r : Resource) (key : String) (values : List Json) : Resource :=
  if values.isEmpty then r else r.property key (.arr values)

def output (r : Resource) (o : Output) : Resource := { r with outputs := r.outputs ++ [o] }

/-- Members in name order; absent ones are left out. -/
def toJson (r : Resource) : Json :=
  .obj <|
    (if r.retain then [("DeletionPolicy", .str "Retain")] else []) ++
    (r.dependsOn.map fun id => ("DependsOn", .str id)).toList ++
    (if r.properties.isEmpty then [] else [("Properties", .obj r.properties.entries)]) ++
    [("Type", .str r.kind.name)]

end Resource

/-- A resource that was emitted, for others to point at. -/
structure Handle where
  account : String
  logicalId : String
deriving DecidableEq, Inhabited

namespace Handle

def reference (h : Handle) : Json := .obj [("Ref", .str h.logicalId)]

def getAtt (h : Handle) (name : String) : Json :=
  .obj [("Fn::GetAtt", .arr [.str h.logicalId, .str name])]

end Handle

structure Template where
  account : String
  description : String
  resources : NameMap Json := .empty
  outputs : NameMap Json := .empty

namespace Template

def formatVersion : String := "2010-09-09"

def buildOutput (version : String) : Output :=
  ⟨"TemplateBuild", "CloudFormation Template Build Number", .str version⟩

def ofAccount (a : Account) (version : String) : Template where
  account := a.name
  description := "Build " ++ version ++
    " - IAM Users, Groups, Roles, and Policies for account " ++ a.display
  outputs := NameMap.empty.insert "TemplateBuild" (buildOutput version).toJson

/-- The id of the resource or of its first output that is already taken. -/
def clash? (t : Template) (r : Resource) : Option String :=
  if t.resources.contains r.logicalId then some r.logicalId
  else (r.outputs.find? fun o => t.outputs.contains o.logicalId).map Output.logicalId

def insert (t : Template) (r : Resource) : Template :=
  { t with
    resources := t.resources.insert r.logicalId r.toJson
    outputs := r.outputs.foldl (fun m o => m.insert o.logicalId o.toJson) t.outputs }

def add (t : Template) (r : Resource) : Except Problem Template :=
  match t.clash? r with
  | some id => .error (.duplicateResource t.account id)
  | none => .ok (t.insert r)

def resourceCount (t : Template) : Nat := t.resources.size

def hasResources (t : Template) : Bool := !t.resources.isEmpty

/-- Members in the order in which they are written. -/
def toJson (t : Template) : Json :=
  .obj [("AWSTemplateFormatVersion", .str formatVersion), ("Description", .str t.description),
    ("Resources", .obj t.resources.entries), ("Outputs", .obj t.outputs.entries)]

end Template

/-- The templates of all accounts. -/
structure TemplateSet where
  version : String
  templates : NameMap Template

namespace TemplateSet

def ofRegistry (r : Registry) (version : String) : TemplateSet :=
  ⟨version, r.accounts.map fun _ a => .ofAccount a version⟩

def get? (s : TemplateSet) (account : String) : Option Template := s.templates.get? account

def resourceCount (s : TemplateSet) : Nat :=
  s.templates.values.foldr (fun t n => t.resourceCount + n) 0

def emit (s : TemplateSet) (r : Resource) : Except Problem (TemplateSet × Handle) :=
  match s.get? r.account with
  | none => .error (.unknownAccount r.account)
  | some t => (t.add r).map fun t =>
    ({ s with templates := s.templates.insert r.account t }, ⟨r.account, r.logicalId⟩)

/-- Emits resources until one cannot be made or is refused; what was emitted before stays. -/
def run (s : TemplateSet) : List (Except Problem Resource) → TemplateSet × Option Problem
  | [] => (s, none)
  | .error e :: _ => (s, some e)
  | .ok r :: rest =>
    match s.emit r with
    | .error e => (s, some e)
    | .ok (s, _) => s.run rest

end TemplateSet

end OrgStacks

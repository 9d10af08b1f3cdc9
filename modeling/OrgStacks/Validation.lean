import OrgStacks.Reference
import OrgStacks.Trust

/-!
# Checking a configuration

Every entity is checked before anything is built, kind by kind and in name order, and every problem
is reported once, where it was first found. `Scope.check` goes over the kinds with a report to which
problems are added, and in which trails find where the buckets go. `Scope.findings` lists the same
problems without a report, with repetitions.
-/

set_option autoImplicit false

namespace OrgStacks

def problemOf {α : Type} : Except Problem α → List Problem
  | .error e => [e]
  | .ok _ => []

namespace Config

def addNew (found : List Problem) (p : Problem) : List Problem :=
  if p ∈ found then found else found ++ [p]

structure Report where
  problems : List Problem := []
  /-- The configured buckets that have a place, and where they go. -/
  buckets : NameMap NameSet := .empty

namespace Report

def add (k : Report) (p : Problem) : Report := { k with problems := addNew k.problems p }

def addAll (k : Report) (ps : List Problem) : Report := ps.foldl add k

def note {α : Type} (k : Report) : Except Problem α → Report
  | .error e => k.add e
  | .ok _ => k

end Report

structure Scope where
  config : Config
  registry : Registry
  placements : Placements

namespace Scope

def of (c : Config) (r : Registry) : Scope := ⟨c, r, .ofPolicies r c.policies⟩

def accountsOf {α : Type} [Entity α] (s : Scope) (entity : α) : Except Problem NameSet :=
  s.registry.select (Entity.context entity)

def checkPlace {α : Type} [Entity α] (s : Scope) (k : Report) (entity : α)
    (next : NameSet → Report) : Report :=
  match s.accountsOf entity with
  | .error e => k.add e
  | .ok accounts => next accounts

def checkReferences (s : Scope) (k : Report) (references : List String) (entity : String)
    (accounts : NameSet) : Report :=
  k.addAll <| accounts.toList.foldl (fun found account => references.foldl (fun found reference =>
    found ++ problemOf (s.placements.resolve reference account entity)) found) []

def checkPolicy (s : Scope) (k : Report) (name : String) (p : PolicyConfig) : Report :=
  let k := k.note (s.accountsOf p)
  match p.body name with
  | .error e => k.add e
  | .ok (.assume a) => k.note (s.registry.select a.accounts)
  | .ok _ => k

def checkRole (s : Scope) (k : Report) (name : String) (r : RoleConfig) : Report :=
  let k := r.trusts.foldl (fun k token => k.note (s.registry.trust token)) k
  s.checkPlace k r (s.checkReferences k r.managedPolicies name)

/-- A group of inline policies has to expand to at least one group. -/
def checkGroup (s : Scope) (k : Report) (name : String) (g : GroupConfig) : Report :=
  let k := match g.inlinePolicies with
    | some roles =>
      if roles.isEmpty || s.registry.childAccounts.isEmpty then k.add (.emptyInlineGroup name)
      else k
    | none => k
  s.checkPlace k g (s.checkReferences k g.managedPolicies name)

def checkUser (s : Scope) (k : Report) (name : String) (u : UserConfig) : Report :=
  s.checkPlace k u (s.checkReferences k u.managedPolicies name)

/-- Where a bucket goes is kept for the trails. -/
def checkBucket (s : Scope) (k : Report) (name : String) (b : BucketConfig) : Report :=
  s.checkPlace k b fun accounts => { k with buckets := k.buckets.insert name accounts }

/-- A bucket that is not in the report is managed elsewhere, or its own problem is reported. -/
def checkTrail (s : Scope) (k : Report) (name : String) (t : TrailConfig) : Report :=
  s.checkPlace k t fun accounts =>
    match t.bucket with
    | none => k
    | some bucket =>
      match k.buckets.get? bucket with
      | none => k
      | some placed =>
        k.addAll ((accounts.diff placed).map fun account =>
          .bucketNotInAccount name bucket account)

def checkAll {α : Type} (check : Report → String → α → Report) (k : Report) (m : NameMap α) :
    Report :=
  m.entries.foldl (fun k e => check k e.1 e.2) k

def check (s : Scope) (k : Report) : EntityKind → Report
  | .policy => checkAll s.checkPolicy k s.config.policies
  | .role => checkAll s.checkRole k s.config.roles
  | .group => checkAll s.checkGroup k s.config.groups
  | .user => checkAll s.checkUser k s.config.users
  | .bucket => checkAll s.checkBucket k s.config.buckets
  | .trail => checkAll s.checkTrail k s.config.trails

def report (s : Scope) : Report := EntityKind.all.foldl s.check {}

def badReferences (s : Scope) (references : List String) (accounts : NameSet) (entity : String) :
    List Problem :=
  accounts.toList.flatMap fun account => references.flatMap fun reference =>
    problemOf (s.placements.resolve reference account entity)

def placedFindings {α : Type} [Entity α] (s : Scope) (entity : α) (references : List String)
    (name : String) : List Problem :=
  match s.accountsOf entity with
  | .error e => [e]
  | .ok accounts => s.badReferences references accounts name

def policyFindings (s : Scope) (name : String) (p : PolicyConfig) : List Problem :=
  problemOf (s.accountsOf p) ++
    match p.body name with
    | .error e => [e]
    | .ok (.assume a) => problemOf (s.registry.select a.accounts)
    | .ok _ => []

def roleFindings (s : Scope) (name : String) (r : RoleConfig) : List Problem :=
  (r.trusts.flatMap fun token => problemOf (s.registry.trust token)) ++
    s.placedFindings r r.managedPolicies name

def groupFindings (s : Scope) (name : String) (g : GroupConfig) : List Problem :=
  (match g.inlinePolicies with
    | some roles =>
      if roles.isEmpty || s.registry.childAccounts.isEmpty then [.emptyInlineGroup name] else []
    | none => []) ++
    s.placedFindings g g.managedPolicies name

def userFindings (s : Scope) (name : String) (u : UserConfig) : List Problem :=
  s.placedFindings u u.managedPolicies name

def bucketFindings (s : Scope) (_name : String) (b : BucketConfig) : List Problem :=
  problemOf (s.accountsOf b)

def bucketAccounts? (s : Scope) (name : String) : Option NameSet := do
  let bucket ← s.config.buckets.get? name
  (s.accountsOf bucket).toOption

/-- A configured bucket has to be in every account of the trail. -/
def trailFindings (s : Scope) (name : String) (t : TrailConfig) : List Problem :=
  match s.accountsOf t with
  | .error e => [e]
  | .ok accounts =>
    match t.bucket with
    | none => []
    | some bucket =>
      match s.bucketAccounts? bucket with
      | none => []
      | some placed =>
        (accounts.diff placed).map fun account => .bucketNotInAccount name bucket account

def entityFindings {α : Type} (find : String → α → List Problem) (m : NameMap α) :
    List Problem :=
  m.entries.flatMap fun e => find e.1 e.2

def findings (s : Scope) : List Problem :=
  entityFindings s.policyFindings s.config.policies ++
    entityFindings s.roleFindings s.config.roles ++
    entityFindings s.groupFindings s.config.groups ++
    entityFindings s.userFindings s.config.users ++
    entityFindings s.bucketFindings s.config.buckets ++
    entityFindings s.trailFindings s.config.trails

end Scope

def withoutRepetition (ps : List Problem) : List Problem := ps.foldl addNew []

def validate (c : Config) (r : Registry) : Except CompileError Unit :=
  CompileError.collect (Scope.of c r).report.problems

end Config

end OrgStacks

import OrgStacks.Proofs.Records

/-!
# A configuration survives its writing

Each record of a configuration is written under its main names and read back from every spelling of
what is written: under aliases, with its members in any order, and so for the records in it. What
is left out is what reading fills in.
-/

namespace OrgStacks
set_option autoImplicit false

open Config (ReadsAs Fills Member readsAs_record readsAs_text readsAs_bool readsAs_texts
  readsAs_json optionalMember)

def ProperVars (vars : Option Json) : Prop := ∀ v ∈ vars, v ≠ .null ∧ v.Proper

namespace AccountConfig

theorem regular : Member.Regular .account members where
  distinct := by decide
  aliases := by decide
  independent := by simp [members]

theorem readsAs_id {p : Place} (id : String) : ReadsAs readId p (.str id) id := by
  intro v' h
  cases h
  rfl

theorem readsAs (a : AccountConfig) : ReadsAs read .account a.toJson a := by
  refine readsAs_record regular ?_
  rw [← List.append_nil (optionalMember _ _ _)]
  exact .value (readsAs_id a.id) <|
    .value (readsAs_bool a.parent) <|
    .optional (fun s _ => (readsAs_text s).some nofun) rfl .nil

end AccountConfig

namespace NameSettings

theorem regular : Member.Regular .names members where
  distinct := by decide
  aliases := by decide
  independent := by simp [members]

theorem readsAs (n : NameSettings) : ReadsAs read .names n.toJson n :=
  readsAs_record regular <|
    .value (readsAs_bool n.policies) <|
    .value (readsAs_bool n.roles) <|
    .value (readsAs_bool n.users) <|
    .value (readsAs_bool n.groups) <|
    .value (readsAs_bool n.buckets) <|
    .value (readsAs_bool n.trails) .nil

end NameSettings

namespace GlobalConfig

theorem regular : Member.Regular .global members where
  distinct := by decide
  aliases := by decide
  independent := by simp [members]

theorem readsAs_outputs {p : Place} (outputs : Bool) :
    ReadsAs readOutputs p (.str (if outputs then "enabled" else "disabled")) outputs := by
  intro v' h
  cases h
  cases outputs <;> rfl

theorem readsAs (g : GlobalConfig) : ReadsAs read .global g.toJson g :=
  readsAs_record regular <|
    .value g.names.readsAs <|
    .value (readsAs_outputs g.outputs) .nil

end GlobalConfig

namespace AssumeConfig

theorem regular : Member.Regular .other members where
  distinct := by decide
  aliases := by decide
  independent := by simp [members]

theorem readsAs (a : AssumeConfig) : ReadsAs read .other a.toJson a :=
  readsAs_record regular <|
    .value (readsAs_texts a.accounts) <|
    .value (readsAs_texts a.roles) .nil

end AssumeConfig

namespace PolicyConfig

theorem regular : Member.Regular .other members where
  distinct := by decide
  aliases := by decide
  independent := by simp [members]

theorem readsAs {p : PolicyConfig} (h : ProperVars p.templateVars) :
    ReadsAs read .other p.toJson p := by
  refine readsAs_record regular ?_
  simp only [List.append_assoc]
  exact .optional (fun texts _ => (readsAs_texts texts).some nofun) rfl <|
    .optional (fun s _ => (readsAs_text s).some nofun) rfl <|
    .value (readsAs_bool p.inline) <|
    .optional (fun s _ => (readsAs_text s).some nofun) rfl <|
    .optional (fun v hv => (readsAs_json (h v hv).2).some (h v hv).1) rfl <|
    .optional (fun a _ => a.readsAs.some nofun) rfl <|
    .texts rfl <| .texts rfl <| .texts rfl <|
    .value (readsAs_bool p.retainOnDelete) .nil

end PolicyConfig

namespace RoleConfig

theorem regular : Member.Regular .other members where
  distinct := by decide
  aliases := by decide
  independent := by simp [members]

theorem readsAs (r : RoleConfig) : ReadsAs read .other r.toJson r := by
  refine readsAs_record regular ?_
  simp only [List.append_assoc]
  exact .optional (fun texts _ => (readsAs_texts texts).some nofun) rfl <|
    .value (readsAs_texts r.trusts) <|
    .texts rfl <|
    .value (readsAs_bool r.retainOnDelete) .nil

end RoleConfig

namespace GroupConfig

theorem regular : Member.Regular .other members where
  distinct := by decide
  aliases := by decide
  independent := by simp [members]

theorem readsAs (g : GroupConfig) : ReadsAs read .other g.toJson g := by
  refine readsAs_record regular ?_
  simp only [List.append_assoc]
  exact .optional (fun texts _ => (readsAs_texts texts).some nofun) rfl <|
    .texts rfl <|
    .optional (fun texts _ => (readsAs_texts texts).some nofun) rfl <|
    .value (readsAs_bool g.retainOnDelete) .nil

end GroupConfig

namespace UserConfig

theorem regular : Member.Regular .other members where
  distinct := by decide
  aliases := by decide
  independent := by simp [members]

theorem readsAs (u : UserConfig) : ReadsAs read .other u.toJson u := by
  refine readsAs_record regular ?_
  simp only [List.append_assoc]
  exact .optional (fun texts _ => (readsAs_texts texts).some nofun) rfl <|
    .texts rfl <| .texts rfl <|
    .optional (fun s _ => (readsAs_text s).some nofun) rfl <|
    .value (readsAs_bool u.retainOnDelete) .nil

end UserConfig

namespace BucketPolicyConfig

theorem regular : Member.Regular .other members where
  distinct := by decide
  aliases := by decide
  independent := by simp [members]

theorem readsAs {b : BucketPolicyConfig} (h : ProperVars b.templateVars) :
    ReadsAs read .other b.toJson b := by
  refine readsAs_record regular ?_
  rw [← List.append_nil (optionalMember _ _ _)]
  exact .value (readsAs_text b.policyFile) <|
    .optional (fun v hv => (readsAs_json (h v hv).2).some (h v hv).1) rfl .nil

end BucketPolicyConfig

namespace BucketConfig

theorem regular : Member.Regular .other members where
  distinct := by decide
  aliases := by decide
  independent := by simp [members]

theorem readsAs {b : BucketConfig} (h : ∀ p ∈ b.bucketPolicy, ProperVars p.templateVars) :
    ReadsAs read .other b.toJson b := by
  refine readsAs_record regular ?_
  simp only [List.append_assoc]
  exact .optional (fun texts _ => (readsAs_texts texts).some nofun) rfl <|
    .optional (fun p hp => (BucketPolicyConfig.readsAs (h p hp)).some nofun) rfl <|
    .value (readsAs_bool b.retainOnDelete) .nil

end BucketConfig

namespace TrailConfig

theorem regular : Member.Regular .trail members where
  distinct := by decide
  aliases := by decide
  independent := by simp [members]

theorem readsAs (t : TrailConfig) : ReadsAs read .trail t.toJson t := by
  refine readsAs_record regular ?_
  simp only [List.append_assoc]
  exact .optional (fun texts _ => (readsAs_texts texts).some nofun) rfl <|
    .optional (fun s _ => (readsAs_text s).some nofun) rfl <|
    .optional (fun b _ => (readsAs_bool b).some nofun) rfl <|
    .optional (fun b _ => (readsAs_bool b).some nofun) rfl <|
    .optional (fun b _ => (readsAs_bool b).some nofun) rfl <|
    .value (readsAs_bool t.retainOnDelete) .nil

end TrailConfig

namespace Config

structure VarsProper (c : Config) : Prop where
  policies : ∀ e ∈ c.policies.entries, ProperVars e.2.templateVars
  buckets : ∀ e ∈ c.buckets.entries, ∀ p ∈ e.2.bucketPolicy, ProperVars p.templateVars

theorem regular : Member.Regular .config members where
  distinct := by decide
  aliases := by decide
  independent := by simp [members]

theorem readsAs {c : Config} (h : c.VarsProper) : ReadsAs read .config c.toJson c :=
  readsAs_record regular <|
    .value c.global.readsAs <|
    .value (.names (m := c.accounts) (fun _ => rfl) fun e _ => e.2.readsAs) <|
    .value (.names (fun _ => rfl) fun e he => PolicyConfig.readsAs (h.policies e he)) <|
    .value (.names (fun _ => rfl) fun e _ => RoleConfig.readsAs e.2) <|
    .value (.names (fun _ => rfl) fun e _ => GroupConfig.readsAs e.2) <|
    .value (.names (fun _ => rfl) fun e _ => UserConfig.readsAs e.2) <|
    .value (.names (fun _ => rfl) fun e he => BucketConfig.readsAs (h.buckets e he)) <|
    .value (.names (fun _ => rfl) fun e _ => TrailConfig.readsAs e.2) .nil

/-- A configuration is read back from what is written for it, and from every spelling of that:
with members under their aliases, and the members of every mapping in any order. -/
theorem survives_its_writing (c : Config) (h : c.VarsProper) :
    read (.ofJson c.toJson) = .ok c ∧
      ∀ v, Respelled .config c.toJson v → read (.ofJson v) = .ok c :=
  ⟨(readsAs h).read_self, fun v hv => readsAs h v hv⟩

/-- An organization with every member that has an alias, and an empty list of places. -/
def audited : Config where
  global := { names := { trails := true } }
  accounts := .ofList [("root", { id := "1", parent := true, samlProvider := some "idp" })]
  policies := .ofList [("P", {
    inAccounts := some []
    policyFile := some "p.json"
    templateVars := some (.obj [("days", .int 90), ("sinks", .arr [.str "logs"])]) })]
  trails := .ofList [("T", { globalEvents := some false })]

def auditedRespelled : Json :=
  .obj <| List.reverse [
    ("global", .obj <| List.reverse [
      ("names", .obj <| List.reverse [("policies", .bool false), ("roles", .bool true),
        ("users", .bool true), ("groups", .bool true), ("buckets", .bool false),
        ("cloudtrail", .bool true)]),
      ("template_outputs", .str "enabled")]),
    ("accounts", .obj <| List.reverse [
      ("root", .obj <| List.reverse [("id", .str "1"), ("parent", .bool true),
        ("samlProvider", .str "idp")])]),
    ("policies", .obj <| List.reverse [
      ("P", .obj <| List.reverse [("in_accounts", .arr []), ("inline", .bool false),
        ("policy_file", .str "p.json"),
        ("template_vars", .obj <| List.reverse [("days", .int 90),
          ("sinks", .arr [.str "logs"])]),
        ("retain_on_delete", .bool false)])]),
    ("roles", .obj []), ("groups", .obj []), ("users", .obj []), ("buckets", .obj []),
    ("cloudtrail", .obj <| List.reverse [
      ("T", .obj <| List.reverse [("GlobalEvents", .bool false),
        ("retain_on_delete", .bool false)])])]

theorem respelled_audited : Respelled .config audited.toJson auditedRespelled := by
  have main {p : Place} {name : String} : name ∈ p.spellings name := List.mem_cons_self
  refine .reversed <| .cons main ?global <| .cons main ?accounts <| .cons main ?policies <|
    .cons main (.refl _ _) <| .cons main (.refl _ _) <| .cons main (.refl _ _) <|
    .cons main (.refl _ _) <| .cons (.tail _ (.head _)) ?trails .nil
  case global =>
    refine .reversed <| .cons main ?names <| .cons main .str .nil
    exact .reversed <| .cons main .bool <| .cons main .bool <| .cons main .bool <|
      .cons main .bool <| .cons main .bool <| .cons (.tail _ (.head _)) .bool .nil
  case accounts =>
    refine .reversed <| .cons main ?account .nil
    exact .reversed <| .cons main .str <| .cons main .bool <| .cons (.tail _ (.head _)) .str .nil
  case policies =>
    refine .reversed <| .cons main ?policy .nil
    refine .reversed <| .cons main (.refl _ _) <| .cons main .bool <| .cons main .str <|
      .cons main ?vars <| .cons main .bool .nil
    exact .reversed <| .cons main .int <| .cons main (.refl _ _) .nil
  case trails =>
    refine .reversed <| .cons main ?trail .nil
    exact .reversed <| .cons (.tail _ (.head _)) .bool <| .cons main .bool .nil

theorem audited_survives : audited.VarsProper ∧ read (.ofJson audited.toJson) = .ok audited ∧
    read (.ofJson auditedRespelled) = .ok audited := by
  have hordered : Ordered [("days", Json.int 90), ("sinks", .arr [.str "logs"])] :=
    List.pairwise_pair.mpr (by decide)
  have hproper : audited.VarsProper := by
    refine ⟨fun e he v hv => ?_, nofun⟩
    obtain rfl := List.mem_singleton.mp he
    obtain rfl := Option.some.inj hv
    exact ⟨nofun, hordered, trivial, ⟨trivial, trivial⟩, trivial⟩
  have h := survives_its_writing audited hproper
  exact ⟨hproper, h.1, h.2 _ respelled_audited⟩

end Config

end OrgStacks

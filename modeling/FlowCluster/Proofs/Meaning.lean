import FlowCluster.Proofs.Extent
import FlowCluster.Proofs.Json.Content

/-! # What an object means

An object is accepted as a cluster or as a team exactly if no known key comes twice and every known key has a string
or null; then each field is the string under its key. -/

namespace FlowCluster

open Json

def Cluster.keys : List String := ["identifier", "address", "version", "username", "password", "type"]

def Team.keys : List String := ["bucket_uuid", "slug", "name"]

def Cluster.texts : List (String × (String → Cluster → Cluster)) := [
  ("identifier", fun x c => { c with identifier := x }),
  ("address", fun x c => { c with address := x }),
  ("version", fun x c => { c with version := x }),
  ("username", fun x c => { c with username := x }),
  ("password", fun x c => { c with password := x }),
  ("type", fun x c => { c with kind := x })]

def Team.texts : List (String × (String → Team → Team)) := [
  ("bucket_uuid", fun x t => { t with bucket := x }),
  ("slug", fun x t => { t with slug := x }),
  ("name", fun x t => { t with name := x })]

private theorem Cluster.shows (name : String) (get : Cluster → String)
    (h : (name, get) ∈ [("identifier", Cluster.identifier), ("address", Cluster.address), ("version", Cluster.version),
      ("username", Cluster.username), ("password", Cluster.password), ("type", Cluster.kind)]) :
    Layout.Shows Cluster.texts name get := by
  simp only [List.mem_cons, List.not_mem_nil, or_false, Prod.mk.injEq] at h
  rcases h with ⟨rfl, rfl⟩ | ⟨rfl, rfl⟩ | ⟨rfl, rfl⟩ | ⟨rfl, rfl⟩ | ⟨rfl, rfl⟩ | ⟨rfl, rfl⟩
  all_goals
    refine ⟨by decide, fun h => ?_, fun h hne => ?_⟩
    · simp only [Cluster.texts, List.mem_cons, Prod.mk.injEq, String.reduceEq, false_and, true_and, false_or,
        List.not_mem_nil, or_false] at h
      rw [h]
    · simp only [Cluster.texts, List.mem_cons, Prod.mk.injEq, List.not_mem_nil, or_false] at h
      rcases h with ⟨rfl, rfl⟩ | ⟨rfl, rfl⟩ | ⟨rfl, rfl⟩ | ⟨rfl, rfl⟩ | ⟨rfl, rfl⟩ | ⟨rfl, rfl⟩ <;>
        first | rfl | exact absurd rfl hne

private theorem Team.shows (name : String) (get : Team → String)
    (h : (name, get) ∈ [("bucket_uuid", Team.bucket), ("slug", Team.slug), ("name", Team.name)]) :
    Layout.Shows Team.texts name get := by
  simp only [List.mem_cons, List.not_mem_nil, or_false, Prod.mk.injEq] at h
  rcases h with ⟨rfl, rfl⟩ | ⟨rfl, rfl⟩ | ⟨rfl, rfl⟩
  all_goals
    refine ⟨by decide, fun h => ?_, fun h hne => ?_⟩
    · simp only [Team.texts, List.mem_cons, Prod.mk.injEq, String.reduceEq, false_and, true_and, false_or,
        List.not_mem_nil, or_false] at h
      rw [h]
    · simp only [Team.texts, List.mem_cons, Prod.mk.injEq, List.not_mem_nil, or_false] at h
      rcases h with ⟨rfl, rfl⟩ | ⟨rfl, rfl⟩ | ⟨rfl, rfl⟩ <;> first | rfl | exact absurd rfl hne

def Cluster.ofMembers (ms : List (String × Content)) : Cluster :=
  ⟨denoted ms "identifier", denoted ms "address", denoted ms "version", denoted ms "username", denoted ms "password",
    denoted ms "type"⟩

def Team.ofMembers (ms : List (String × Content)) : Team :=
  ⟨denoted ms "bucket_uuid", denoted ms "slug", denoted ms "name"⟩

private theorem Cluster.ofMembers_congr {ms ns : List (String × Content)}
    (h : ∀ name ∈ Cluster.keys, denoted ms name = denoted ns name) : Cluster.ofMembers ms = Cluster.ofMembers ns := by
  simp only [Cluster.keys, List.forall_mem_cons] at h
  simp only [Cluster.ofMembers, h]

private theorem Team.ofMembers_congr {ms ns : List (String × Content)}
    (h : ∀ name ∈ Team.keys, denoted ms name = denoted ns name) : Team.ofMembers ms = Team.ofMembers ns := by
  simp only [Team.keys, List.forall_mem_cons] at h
  simp only [Team.ofMembers, h]

private theorem Cluster.gathered {ms : List (String × Content)} (hs : Sensible Cluster.keys ms) :
    (Layout.effects Cluster.texts ms).foldl (fun y m => m.2.apply y) Cluster.blank = Cluster.ofMembers ms := by
  have hget {name : String} {get : Cluster → String} (h : Layout.Shows Cluster.texts name get)
      (hb : get Cluster.blank = "") := (h.get_foldl hs Cluster.blank).trans (congrArg (Option.elim _ · _) hb)
  generalize (Layout.effects Cluster.texts ms).foldl (fun y m => m.2.apply y) Cluster.blank = c at hget
  calc c = ⟨c.identifier, c.address, c.version, c.username, c.password, c.kind⟩ := rfl
    _ = Cluster.ofMembers ms := by
      rw [hget (Cluster.shows "identifier" Cluster.identifier (by simp)) rfl,
        hget (Cluster.shows "address" Cluster.address (by simp)) rfl,
        hget (Cluster.shows "version" Cluster.version (by simp)) rfl,
        hget (Cluster.shows "username" Cluster.username (by simp)) rfl,
        hget (Cluster.shows "password" Cluster.password (by simp)) rfl,
        hget (Cluster.shows "type" Cluster.kind (by simp)) rfl]
      rfl

theorem Team.gathered {ms : List (String × Content)} (hs : Sensible Team.keys ms) :
    (Layout.effects Team.texts ms).foldl (fun y m => m.2.apply y) Team.blank = Team.ofMembers ms := by
  have hget {name : String} {get : Team → String} (h : Layout.Shows Team.texts name get)
      (hb : get Team.blank = "") := (h.get_foldl hs Team.blank).trans (congrArg (Option.elim _ · _) hb)
  generalize (Layout.effects Team.texts ms).foldl (fun y m => m.2.apply y) Team.blank = t at hget
  calc t = ⟨t.bucket, t.slug, t.name⟩ := rfl
    _ = Team.ofMembers ms := by
      rw [hget (Team.shows "bucket_uuid" Team.bucket (by simp)) rfl,
        hget (Team.shows "slug" Team.slug (by simp)) rfl, hget (Team.shows "name" Team.name (by simp)) rfl]
      rfl

theorem Cluster.decode_eq_ok_iff {url : String} {body : Bytes} {ms : List (String × Content)}
    (h : ObjectText body ms) (c : Cluster) :
    Body.cluster.decode url body = .ok c ↔ Sensible Cluster.keys ms ∧ c = Cluster.ofMembers ms := by
  rw [Body.decode_eq_ok_iff]
  have hr := Layout.read_object_eq_ok_iff "ClusterRecord" Cluster.blank Cluster.texts h (x := c)
  refine hr.trans (and_congr_right fun hs => ?_)
  rw [Cluster.gathered hs, eq_comm]

theorem Team.decode_eq_ok_iff {url : String} {body : Bytes} {ms : List (String × Content)}
    (h : ObjectText body ms) (t : Team) :
    Body.team.decode url body = .ok t ↔ Sensible Team.keys ms ∧ t = Team.ofMembers ms := by
  rw [Body.decode_eq_ok_iff]
  have hr := Layout.read_object_eq_ok_iff "TeamDescriptor" Team.blank Team.texts h (x := t)
  refine hr.trans (and_congr_right fun hs => ?_)
  rw [Team.gathered hs, eq_comm]

/-- An object is accepted exactly if its known members are sensible, and means what they denote. So neither the order
of its members nor those of other keys matter. -/
theorem decode_object (url : String) (body : Bytes) (ms : List (String × Content)) (h : ObjectText body ms) :
    (∀ c, Body.cluster.decode url body = .ok c ↔ Sensible Cluster.keys ms ∧
      c = ⟨denoted ms "identifier", denoted ms "address", denoted ms "version", denoted ms "username",
        denoted ms "password", denoted ms "type"⟩) ∧
    (∀ t, Body.team.decode url body = .ok t ↔ Sensible Team.keys ms ∧
      t = ⟨denoted ms "bucket_uuid", denoted ms "slug", denoted ms "name"⟩) ∧
    (∀ body' ns, ObjectText body' ns →
      ((known Cluster.keys ms).Perm (known Cluster.keys ns) →
        ∀ c, Body.cluster.decode url body = .ok c ↔ Body.cluster.decode url body' = .ok c) ∧
      ((known Team.keys ms).Perm (known Team.keys ns) →
        ∀ t, Body.team.decode url body = .ok t ↔ Body.team.decode url body' = .ok t)) ∧
    "cluster_type" ∉ Cluster.keys := by
  refine ⟨Cluster.decode_eq_ok_iff h, Team.decode_eq_ok_iff h, fun body' ns h' => ⟨fun hp c => ?_, fun hp t => ?_⟩,
    by decide⟩
  · rw [Cluster.decode_eq_ok_iff h, Cluster.decode_eq_ok_iff h', sensible_congr Cluster.ofMembers_congr hp]
  · rw [Team.decode_eq_ok_iff h, Team.decode_eq_ok_iff h', sensible_congr Team.ofMembers_congr hp]

/-- A known key in another spelling, an unknown key with a list, and a null. -/
theorem decode_object_cluster :
    let body := Text.Utf8.encode "\x7b\"t\\u0079pe\" : \"T\",\"x\":[1],\"address\":null\x7d"
    ObjectText body [("type", .text "T"), ("x", .other), ("address", .null)] ∧
      Body.cluster.decode "http://localhost" body = .ok ⟨"", "", "", "", "", "T"⟩ := by
  have hkey : Spells ('t'.toUInt8 :: '\\'.toUInt8 ::
      (['u'.toUInt8, '0'.toUInt8, '0'.toUInt8, '7'.toUInt8, '9'.toUInt8] ++ Text.Utf8.encode "pe"))
      (Text.Utf8.encode "type") := by
    have hd : Text.Utf8.encode "type" =
        't'.toUInt8 :: (Text.Utf8.encodeChar (Char.ofNat 0x79) ++ Text.Utf8.encode "pe") := by decide
    rw [hd]
    exact .plain (by decide) (.escape (.numbered ⟨_, _, _, _, rfl, by decide⟩ (by decide) (by decide))
      (.of_plain (by decide +kernel)))
  have hdigit : Numeral.WholeText ['1'.toUInt8] := .digits (by decide) (by decide) (by simp)
  have hone : IsValue ['1'.toUInt8] := .scalar (.number (.positive hdigit .none .none))
  have hlist : Means ['['.toUInt8, '1'.toUInt8, ']'.toUInt8] .other := by
    refine .other (.bracket (k := .list) (.item (.first blank_nil) hone (.close blank_nil)))
      (by decide) ?_
    rintro t ⟨k, -, h⟩
    exact absurd (List.cons.inj h).1 (by decide)
  have hbody : ObjectText (Text.Utf8.encode "\x7b\"t\\u0079pe\" : \"T\",\"x\":[1],\"address\":null\x7d")
      [("type", .text "T"), ("x", .other), ("address", .null)] := by
    refine ⟨[], _, [], blank_nil, .member (.first blank_nil) hkey (u := [0x20]) (w := [0x20]) (by decide) (by decide)
      (.text ⟨_, .of_plain (by decide +kernel), rfl⟩)
      (.member (.next blank_nil blank_nil) (.of_plain (by decide +kernel)) blank_nil blank_nil hlist
        (.member (.next blank_nil blank_nil) (.of_plain (by decide +kernel)) blank_nil blank_nil .null (.close blank_nil))),
      blank_nil, by decide⟩
  exact ⟨hbody, ((decode_object _ _ _ hbody).1 _).mpr ⟨by decide, by decide⟩⟩

end FlowCluster

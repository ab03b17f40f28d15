import ApiStencil.Proofs.Api.Expansion
import Mathlib.Data.List.Nodup

/-!
# The names of servers

A server without a name is called after its position, and a position comes once in a list. The names
that documents give are free texts, though, and one of them may be that of a position where there is
a server without a name.

## Main definitions

* `PositionNameTaken`: a given name is that of a server which has none
* `NamedServer.Names`: what becomes of the server at a position

## Main results

* `positionName_injective`: positions differ in their names
* `names_nameServers_perm`: given names and names of positions
* `expandDocument_servers`: what becomes of the servers, and when their names differ
* `expandDocument_servers_taken`: a document whose servers come to have one name
-/

namespace ApiStencil

/-- A name that a document gives is that of the position of a server without a name. -/
def PositionNameTaken (servers : List Server) : Prop :=
  ∃ index unnamed, servers[index]? = some unnamed ∧ unnamed.name = none ∧
    positionName index ∈ servers.filterMap (·.name)

/-- The server that is given a name keeps everything else: its URL, its description and the name
that it has. One without a name is called after its position. -/
structure NamedServer.Names (named : NamedServer) (server : Server) (index : Nat) : Prop where
  url : named.url = server.url
  description : named.description = server.description
  given : ∀ name, server.name = some name → named.name = name
  position : server.name = none → named.name = "server" ++ toString index

/-! ## The names of positions -/

theorem positionName_injective : Function.Injective positionName := by
  intro i j h
  have hdigits : Nat.toDigits 10 i = Nat.toDigits 10 j := by
    rw [← Nat.toList_repr, ← Nat.toList_repr]
    exact congrArg String.toList ((String.append_right_inj "server").mp h)
  calc i = Nat.ofDigitChars 10 (Nat.toDigits 10 i) 0 := Nat.ofDigitChars_ten_toDigits.symm
    _ = Nat.ofDigitChars 10 (Nat.toDigits 10 j) 0 := by rw [hdigits]
    _ = j := Nat.ofDigitChars_ten_toDigits

/-- The names of the positions of servers without a name. -/
def positionNames (servers : List Server) : List String :=
  (servers.zipIdx.filter (·.1.name = none)).map fun entry => positionName entry.2

theorem nodup_positionNames (servers : List Server) : (positionNames servers).Nodup := by
  have hpositions : ((servers.zipIdx.filter (·.1.name = none)).map Prod.snd).Nodup := by
    refine List.Nodup.sublist (List.filter_sublist.map Prod.snd) ?_
    rw [List.zipIdx_map_snd]
    exact List.nodup_range'
  have hnames := hpositions.map positionName_injective
  rwa [List.map_map] at hnames

theorem mem_positionNames_iff {servers : List Server} {name : String} :
    name ∈ positionNames servers ↔ ∃ index unnamed, servers[index]? = some unnamed ∧
      unnamed.name = none ∧ positionName index = name := by
  simp only [positionNames, List.mem_map, List.mem_filter, decide_eq_true_eq, Prod.exists,
    List.mem_zipIdx_iff_getElem?]
  constructor
  · rintro ⟨unnamed, index, ⟨hserver, hnone⟩, hname⟩
    exact ⟨index, unnamed, hserver, hnone, hname⟩
  · rintro ⟨index, unnamed, hserver, hnone, hname⟩
    exact ⟨unnamed, index, ⟨hserver, hnone⟩, hname⟩

theorem positionNameTaken_iff {servers : List Server} :
    PositionNameTaken servers ↔
      ∃ name ∈ positionNames servers, name ∈ servers.filterMap (·.name) := by
  simp only [mem_positionNames_iff]
  constructor
  · rintro ⟨index, unnamed, hserver, hnone, htaken⟩
    exact ⟨positionName index, ⟨index, unnamed, hserver, hnone, rfl⟩, htaken⟩
  · rintro ⟨_, ⟨index, unnamed, hserver, hnone, rfl⟩, htaken⟩
    exact ⟨index, unnamed, hserver, hnone, htaken⟩

instance (servers : List Server) : Decidable (PositionNameTaken servers) :=
  decidable_of_iff _ positionNameTaken_iff.symm

/-! ## The names of all servers -/

/-- The values of a function with a default are those that it has and the defaults of the rest. -/
theorem map_getD_perm {α β : Type} (f : α → Option β) (default : α → β) (list : List α) :
    (list.map fun a => (f a).getD (default a)).Perm
      (list.filterMap f ++ (list.filter (f · = none)).map default) := by
  induction list with
  | nil => exact List.Perm.refl _
  | cons a list ih =>
    cases ha : f a with
    | some b =>
      rw [List.filterMap_cons_some ha, List.filter_cons_of_neg (by simp [ha]), List.map_cons, ha]
      exact ih.cons b
    | none =>
      rw [List.filterMap_cons_none ha, List.filter_cons_of_pos (by simp [ha]), List.map_cons, ha]
      exact (ih.cons (default a)).trans List.perm_middle.symm

theorem names_nameServers_perm (servers : List Server) :
    ((nameServers servers).map (·.name)).Perm
      (servers.filterMap (·.name) ++ positionNames servers) := by
  have hperm := map_getD_perm (·.1.name) (fun entry => positionName entry.2) servers.zipIdx
  have hgiven : servers.zipIdx.filterMap (·.1.name) = servers.filterMap (·.name) := by
    conv_rhs => rw [← List.zipIdx_map_fst 0 servers, List.filterMap_map]
    rfl
  rw [hgiven] at hperm
  rw [nameServers, List.mapIdx_eq_zipIdx_map, List.map_map]
  exact hperm

/-- The names differ exactly if those that are given do and none of them is that of a position. -/
theorem nodup_names_nameServers_iff (servers : List Server) :
    ((nameServers servers).map (·.name)).Nodup ↔
      (servers.filterMap (·.name)).Nodup ∧ ¬ PositionNameTaken servers := by
  rw [(names_nameServers_perm servers).nodup_iff, List.nodup_append, positionNameTaken_iff]
  constructor
  · rintro ⟨hgiven, -, hdisjoint⟩
    refine ⟨hgiven, ?_⟩
    rintro ⟨name, hposition, htaken⟩
    exact hdisjoint name htaken name hposition rfl
  · rintro ⟨hgiven, htaken⟩
    refine ⟨hgiven, nodup_positionNames servers, ?_⟩
    rintro name hname _ hposition rfl
    exact htaken ⟨name, hposition, hname⟩

/-! ## The servers of an expanded document -/

theorem names_nameServer (server : Server) (index : Nat) :
    (nameServer server index).Names server index where
  url := rfl
  description := rfl
  given name hname := by rw [nameServer, hname, Option.getD_some]
  position hnone := by rw [nameServer, hnone, Option.getD_none, positionName]

theorem servers_of_expandDocument {v : Vocabulary} {strict : Bool} {document : Document}
    {spelled : SpelledApi} (h : (expandDocument v strict document).result = .ok spelled) :
    spelled.servers = nameServers document.servers := by
  obtain ⟨api, htyped, rfl⟩ := expandDocument_eq_ok_iff.mp h
  exact (typeDocument_eq_ok_iff.mp htyped).2.2.2

/-- **The names of servers.** An expanded document has the servers of the document in their order,
each with its URL and its description, and with its own name or that of its position. If the names
that are given differ, then so do all names, unless one that is given is that of the position of a
server without a name. -/
theorem expandDocument_servers {v : Vocabulary} {strict : Bool} {document : Document}
    {spelled : SpelledApi} (h : (expandDocument v strict document).result = .ok spelled)
    (hgiven : (document.servers.filterMap (·.name)).Nodup) :
    spelled.servers.length = document.servers.length ∧
      (∀ index server, document.servers[index]? = some server →
        ∃ named : NamedServer, spelled.servers[index]? = some named ∧ named.Names server index) ∧
      ((spelled.servers.map (·.name)).Nodup ↔ ¬ PositionNameTaken document.servers) := by
  rw [servers_of_expandDocument h]
  refine ⟨List.length_mapIdx, ?_, ?_⟩
  · intro index server hserver
    refine ⟨nameServer server index, ?_, names_nameServer server index⟩
    rw [nameServers, List.getElem?_mapIdx, hserver, Option.map_some]
  · rw [nodup_names_nameServers_iff]
    exact and_iff_right hgiven

/-- Three servers, of which the second is called as it would have been without a name. -/
def mirrorDocument : Document where
  info := { title := "Pets", version := "1" }
  servers := [{ url := "https://a.example.com" },
    { name := some "server1", url := "https://b.example.com" },
    { url := "https://c.example.com" }]

theorem expandDocument_servers_mirror :
    ∃ spelled, (expandDocument {} false mirrorDocument).result = .ok spelled ∧
      (mirrorDocument.servers.filterMap (·.name)).Nodup ∧ spelled.servers.length = 3 ∧
      (spelled.servers.map (·.name)).Nodup := by
  have hok : (expandDocument {} false mirrorDocument).result =
      .ok { info := mirrorDocument.info, servers := nameServers mirrorDocument.servers,
            models := [], groups := [] } := by rfl
  have hgiven : (mirrorDocument.servers.filterMap (·.name)).Nodup := by decide
  obtain ⟨hlength, -, hnames⟩ := expandDocument_servers hok hgiven
  refine ⟨_, hok, hgiven, hlength, hnames.mpr ?_⟩
  decide +kernel

/-- Two servers, of which the second is called as the first one will be. -/
def takenDocument : Document where
  info := { title := "Pets", version := "1" }
  servers := [{ url := "https://a.example.com" },
    { name := some "server0", url := "https://b.example.com" }]

/-- One name is given, so the names that are given differ, and yet both servers are called
`server0`. -/
theorem expandDocument_servers_taken :
    (takenDocument.servers.filterMap (·.name)).Nodup ∧
      ∃ spelled, (expandDocument {} false takenDocument).result = .ok spelled ∧
        spelled.servers.map (·.name) = ["server0", "server0"] ∧
        ¬ (spelled.servers.map (·.name)).Nodup := by
  have hok : (expandDocument {} false takenDocument).result =
      .ok { info := takenDocument.info, servers := nameServers takenDocument.servers,
            models := [], groups := [] } := by rfl
  have hnames : (nameServers takenDocument.servers).map (·.name) = ["server0", "server0"] := by
    decide +kernel
  refine ⟨by decide, _, hok, hnames, ?_⟩
  rw [hnames]
  decide

end ApiStencil

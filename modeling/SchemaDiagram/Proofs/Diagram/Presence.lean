import Mathlib.Data.List.Flatten
import SchemaDiagram.Proofs.Diagram.Meaning

namespace SchemaDiagram

open Text

variable {showOrphans : Bool} {tables tables' : List Table} {index index' : NameIndex}

theorem isDrawn_mono (h : tables.map Table.name ⊆ tables'.map Table.name) {r : Reference}
    (hr : isDrawn showOrphans tables r = true) : isDrawn showOrphans tables' r = true := by
  rw [isDrawn_iff] at hr ⊢
  rcases hr with hshow | ⟨t, ht, hname⟩
  · exact .inl hshow
  · obtain ⟨u, hu, heq⟩ := List.mem_map.1 (h (List.mem_map_of_mem ht))
    exact .inr ⟨u, hu, heq ▸ hname⟩

theorem isDrawn_congr (h : tables.map Table.name ⊆ tables'.map Table.name)
    (h' : tables'.map Table.name ⊆ tables.map Table.name) :
    isDrawn showOrphans tables = isDrawn showOrphans tables' := by
  funext r
  exact Bool.eq_iff_iff.2 ⟨isDrawn_mono h, isDrawn_mono h'⟩

theorem mem_nameIndex_iff {name : String} :
    name ∈ nameIndex tables ↔ name ∈ tables.map Table.name := by
  rw [← Std.HashMap.contains_iff_mem, contains_nameIndex, List.any_eq_true, List.mem_map]
  simp only [beq_iff_eq]

namespace Table

theorem links_sublist (h : tables.map name ⊆ tables'.map name) (t : Table) :
    (t.links showOrphans tables).Sublist (t.links showOrphans tables') :=
  (List.monotone_filter_right _ fun _ => isDrawn_mono h).map _

theorem links_congr (h : tables.map name ⊆ tables'.map name)
    (h' : tables'.map name ⊆ tables.map name) :
    links showOrphans tables = links showOrphans tables' := by
  unfold links
  rw [isDrawn_congr h h']

end Table

namespace Draft

def indexed (title : String) (showOrphans : Bool) (index : NameIndex) (tables : List Table) :
    Draft :=
  let opened := (({} : Draft).write "@startuml\n").write ("Title: " ++ title ++ "\n")
  let linked := tables.foldl (addKeys showOrphans index) (tables.foldl addBlock opened)
  (linked.write "\n").write "@enduml\n"

theorem indexed_nameIndex (title : String) (showOrphans : Bool) (tables : List Table) :
    indexed title showOrphans (nameIndex tables) tables = ofTables title showOrphans tables := rfl

theorem addKey_congr (h : ∀ name, name ∈ index ↔ name ∈ index') :
    addKey showOrphans index = addKey showOrphans index' := by
  have hcontains : index.contains = index'.contains := by
    funext name
    exact Bool.eq_iff_iff.2 (h name)
  funext t d k
  have hshown : k.isShown showOrphans index = k.isShown showOrphans index' := by
    rw [ForeignKey.isShown, ForeignKey.isShown, hcontains]
  dsimp only [addKey]
  rw [hshown]

theorem indexed_congr (h : ∀ name, name ∈ index ↔ name ∈ index') (title : String)
    (tables : List Table) :
    indexed title showOrphans index tables = indexed title showOrphans index' tables := by
  have hkeys : addKeys showOrphans index = addKeys showOrphans index' := by
    funext d t
    rw [addKeys, addKeys, addKey_congr h]
  rw [indexed, hkeys, indexed]

end Draft

namespace Settings

theorem describe_eq_unlines_blocks (s : Settings) (tables : List Table) :
    s.describe tables =
      unlines (["@startuml", "Title: " ++ s.title] ++ (tables.map Table.block).flatten
        ++ tables.flatMap (Table.links s.showOrphans tables) ++ ["", "@enduml"]) := by
  rw [describe_eq_unlines, diagramLines, Table.map_line_drawn, List.flatMap_def (f := Table.block)]

theorem links_rest_on_names (s : Settings) :
    (∀ tables, s.describe tables =
        unlines (["@startuml", "Title: " ++ s.title] ++ (tables.map Table.block).flatten
          ++ tables.flatMap (Table.links s.showOrphans tables) ++ ["", "@enduml"])) ∧
      (∀ tables tables' : List Table, tables.Perm tables' →
        (tables.map Table.block).Perm (tables'.map Table.block) ∧
          (tables.flatMap (Table.links s.showOrphans tables)).Perm
            (tables'.flatMap (Table.links s.showOrphans tables')) ∧
          s.relationshipCount tables = s.relationshipCount tables') ∧
      (∀ (above below : List Table) (u : Table),
        ((above ++ below).flatMap (Table.links s.showOrphans (above ++ below))).Sublist
          ((above ++ u :: below).flatMap (Table.links s.showOrphans (above ++ u :: below)))) ∧
      (∀ (above below : List Table) (u : Table), u.name ∈ (above ++ below).map Table.name →
        s.describe (above ++ u :: below) =
          unlines (["@startuml", "Title: " ++ s.title]
            ++ ((above.map Table.block).flatten ++ u.block ++ (below.map Table.block).flatten)
            ++ (above.flatMap (Table.links s.showOrphans (above ++ below))
              ++ u.links s.showOrphans (above ++ below)
              ++ below.flatMap (Table.links s.showOrphans (above ++ below)))
            ++ ["", "@enduml"])) ∧
      ∀ (tables : List Table) (index : NameIndex),
        (∀ name, name ∈ index ↔ name ∈ tables.map Table.name) →
          Draft.indexed s.title s.showOrphans index tables = s.draft tables := by
  refine ⟨s.describe_eq_unlines_blocks, ?_, ?_, ?_, ?_⟩
  · intro tables tables' hperm
    have hnames := hperm.map Table.name
    have hlinks : (tables.flatMap (Table.links s.showOrphans tables)).Perm
        (tables'.flatMap (Table.links s.showOrphans tables')) := by
      rw [Table.links_congr hnames.subset hnames.symm.subset]
      exact hperm.flatMap_right _
    refine ⟨hperm.map _, hlinks, ?_⟩
    have hlength := hlinks.length_eq
    rwa [← Table.map_line_drawn, ← Table.map_line_drawn, List.length_map, List.length_map,
      ← relationshipCount_eq_length_drawn, ← relationshipCount_eq_length_drawn] at hlength
  · intro above below u
    have hsub : (above ++ below).Sublist (above ++ u :: below) :=
      (List.Sublist.refl above).append (List.sublist_cons_self u below)
    exact (hsub.flatMap _).trans
      (List.Sublist.flatMap_right _ fun t _ => Table.links_sublist (hsub.map _).subset t)
  · intro above below u hu
    have hsub : (above ++ below).map Table.name ⊆ (above ++ u :: below).map Table.name := by
      intro name hname
      simp only [List.map_append, List.map_cons, List.mem_append, List.mem_cons] at hname ⊢
      tauto
    have hsub' : (above ++ u :: below).map Table.name ⊆ (above ++ below).map Table.name := by
      intro name hname
      simp only [List.map_append, List.map_cons, List.mem_append, List.mem_cons] at hname hu ⊢
      rcases hname with hname | rfl | hname
      · exact .inl hname
      · exact hu
      · exact .inr hname
    rw [describe_eq_unlines_blocks, ← Table.links_congr hsub hsub']
    simp only [List.map_append, List.map_cons, List.flatten_append, List.flatten_cons,
      List.flatMap_append, List.flatMap_cons, List.append_assoc]
  · intro tables index hindex
    rw [draft, ← Draft.indexed_nameIndex]
    exact Draft.indexed_congr (fun name => (hindex name).trans mem_nameIndex_iff.symm) _ _

def formerGuests : Table where
  name := "guests"
  foreignKeys := [{
    column := some "visit", referencedTable := some "visits", referencedColumn := some "id" }]

theorem visits_links_rest_on_names :
    ([Table.visits, guests].Perm [guests, Table.visits] ∧
        relationshipCount {} [Table.visits, guests] =
          relationshipCount {} [guests, Table.visits]) ∧
      (formerGuests.name ∈ [Table.visits, guests].map Table.name ∧
        describe {} [Table.visits, formerGuests, guests] =
          unlines (["@startuml", "Title: Entity Relationship Diagram"]
            ++ (Table.visits.block ++ formerGuests.block ++ guests.block)
            ++ ["visits::guest -- guests::id", "guests::visit -- visits::id"]
            ++ ["", "@enduml"])) ∧
      (∀ name, name ∈ nameIndex [guests, formerGuests, Table.visits] ↔
          name ∈ [Table.visits, formerGuests, guests].map Table.name) ∧
        Draft.indexed "Entity Relationship Diagram" false
            (nameIndex [guests, formerGuests, Table.visits])
            [Table.visits, formerGuests, guests] =
          draft {} [Table.visits, formerGuests, guests] := by
  obtain ⟨_, hperm, _, hknown, hindexed⟩ := links_rest_on_names {}
  have hswap : [Table.visits, guests].Perm [guests, Table.visits] := List.Perm.swap ..
  have hname : formerGuests.name ∈ [Table.visits, guests].map Table.name := by decide
  have hlinks : Table.visits.links false [Table.visits, guests] = ["visits::guest -- guests::id"] ∧
      formerGuests.links false [Table.visits, guests] = ["guests::visit -- visits::id"] ∧
      guests.links false [Table.visits, guests] = [] := by decide +kernel
  have hindex : ∀ name, name ∈ nameIndex [guests, formerGuests, Table.visits] ↔
      name ∈ [Table.visits, formerGuests, guests].map Table.name := by
    intro name
    rw [mem_nameIndex_iff]
    exact ((List.reverse_perm [Table.visits, formerGuests, guests]).map Table.name).mem_iff
  have hdescribe := hknown [Table.visits] [guests] formerGuests hname
  simp only [List.map_cons, List.map_nil, List.flatten_cons, List.flatten_nil, List.flatMap_cons,
    List.flatMap_nil, List.cons_append, List.nil_append, List.append_nil, hlinks] at hdescribe
  exact ⟨⟨hswap, (hperm _ _ hswap).2.2⟩, ⟨hname, hdescribe⟩, hindex, hindexed _ _ hindex⟩

end Settings

end SchemaDiagram

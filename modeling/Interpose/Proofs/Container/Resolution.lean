import Interpose.Proofs.Container.Dependency
import Interpose.Proofs.Metadata.Ancestry

namespace Interpose

open Relation

variable {σ : Type}

namespace Hierarchy

theorem transGen_iff {s : Hierarchy} {n m : String} : TransGen s.Declares n m ↔
    (s.declared n).any (fun above => s.conforms m above) = true := by
  simp only [List.any_eq_true, mem_declared, conforms_iff, TransGen.head'_iff]

instance (s : Hierarchy) (n m : String) : Decidable (TransGen s.Declares n m) :=
  decidable_of_iff _ transGen_iff.symm

end Hierarchy

namespace Registry

variable {r : Registry σ} {d : Definition σ} {typeName : String}

-- A registered type declares a supertype, which need not be registered.
def Declares (r : Registry σ) (name supertype : String) : Prop :=
  ∃ d ∈ r.definitions, d.name = name ∧ supertype ∈ d.type.supertypes

-- A component has a type above its own if declarations lead there by way of registered types.
def Extends (r : Registry σ) (d : Definition σ) (typeName : String) : Prop :=
  TransGen r.Declares d.name typeName

theorem declares_hierarchy (r : Registry σ) : r.hierarchy.Declares = r.Declares := by
  funext name supertype
  simp [Hierarchy.Declares, Declares, types_hierarchy, Definition.name]

instance (r : Registry σ) (d : Definition σ) (typeName : String) :
    Decidable (r.Extends d typeName) :=
  decidable_of_iff (TransGen r.hierarchy.Declares d.name typeName) <| by
    rw [declares_hierarchy, Extends]

-- The components with a type above their own, in order of registration.
def extending (r : Registry σ) (typeName : String) : List (Definition σ) :=
  r.definitions.filter fun d => r.Extends d typeName

theorem conforms_iff_extends (hd : d ∈ r.definitions) (ht : typeName ∉ r.names) :
    r.hierarchy.conforms typeName d.name = true ↔ r.Extends d typeName := by
  have hn : typeName ≠ d.name := fun he => ht (he ▸ List.mem_map_of_mem hd)
  rw [Hierarchy.conforms_iff, reflTransGen_iff_eq_or_transGen, or_iff_right hn, declares_hierarchy,
    Extends]

theorem candidates_eq (ht : typeName ∉ r.names) :
    (r.hierarchy.conforming typeName).filterMap (fun t => r.get? t.name) =
      r.extending typeName := by
  rw [Hierarchy.conforming, types_hierarchy, List.filter_map, List.filterMap_map, extending]
  have hf : r.definitions.filter ((fun t => r.hierarchy.conforms typeName t.name) ∘ (·.type)) =
      r.definitions.filter fun d => r.Extends d typeName := by
    refine List.filter_congr fun d hd => ?_
    rw [Bool.eq_iff_iff, decide_eq_true_eq]
    exact conforms_iff_extends hd ht
  rw [hf]
  have hg : ∀ d ∈ r.definitions.filter fun d => r.Extends d typeName,
      ((fun t => r.get? t.name) ∘ (·.type)) d = some d :=
    fun d hd => get?_eq_some (List.mem_of_mem_filter hd)
  rw [List.filterMap_congr hg, List.filterMap_some]

theorem get?_eq_none (ht : typeName ∉ r.names) : r.get? typeName = none := by
  refine List.find?_eq_none.mpr fun d hd he => ht ?_
  exact beq_iff_eq.mp he ▸ List.mem_map_of_mem hd

theorem resolve_of_none (ht : typeName ∉ r.names) (he : r.extending typeName = []) :
    r.resolve r.hierarchy typeName = .error (.componentNotFound typeName) := by
  simp [resolve, get?_eq_none ht, candidates_eq ht, he]

theorem resolve_of_one (ht : typeName ∉ r.names) (he : r.extending typeName = [d]) :
    r.resolve r.hierarchy typeName = .ok d := by
  simp [resolve, get?_eq_none ht, candidates_eq ht, he]

theorem resolve_of_several (ht : typeName ∉ r.names) (hl : 2 ≤ (r.extending typeName).length) :
    r.resolve r.hierarchy typeName =
      .error (.ambiguousComponent typeName ((r.extending typeName).map (·.name))) := by
  rw [resolve, get?_eq_none ht, candidates_eq ht]
  rcases he : r.extending typeName with _ | ⟨d, _ | ⟨d', ds⟩⟩
  case nil       => simp [he] at hl
  case cons.nil  => simp [he] at hl
  case cons.cons => rfl

end Registry

namespace Container

variable {c : Container σ} {services : Services σ} {s : Session σ} {typeName : String} {depth : Nat}

theorem provider_get_eq {p : Provider σ} (hp : c.providers typeName = .ok p) :
    p.get services = c.providers.get services typeName := by
  rw [Providers.get, hp]
  rfl

-- The type set of a registry resolves each type to the component of its name, or else to the only
-- component that has it above its own type; none or several of those are reported, in order of
-- registration. As long as the container is there, whoever gets a provider for a type, be it for
-- later, gets from it what the container gives for the type and leaves what the container leaves.
theorem resolution_exact (r : Registry σ) (c : Container σ) (typeName : String) :
    (∀ d ∈ r.definitions, d.name = typeName → r.resolve r.hierarchy typeName = .ok d) ∧
    (typeName ∉ r.names →
      (r.extending typeName = [] →
        r.resolve r.hierarchy typeName = .error (.componentNotFound typeName)) ∧
      (∀ d, r.extending typeName = [d] → r.resolve r.hierarchy typeName = .ok d) ∧
      (2 ≤ (r.extending typeName).length → r.resolve r.hierarchy typeName =
        .error (.ambiguousComponent typeName ((r.extending typeName).map (·.name))))) ∧
    ∀ depth s, s.dropped = false →
      c.providers.get (c.services (depth + 1)) typeName s =
        (Handle.toValue <$> c.get (c.services depth) typeName) s ∧
      ∀ p, c.providers typeName = .ok p → p.get (c.services (depth + 1)) s =
        (Handle.toValue <$> c.get (c.services depth) typeName) s := by
  refine ⟨?named, fun ht => ?unregistered, fun depth s ha => ?provided⟩
  case named => rintro d hd rfl; exact Registry.resolve_name hd
  case unregistered =>
    refine ⟨Registry.resolve_of_none ht, fun d => Registry.resolve_of_one ht, ?_⟩
    exact Registry.resolve_of_several ht
  case provided =>
    refine ⟨providers_get_eq ha, fun p hp => ?_⟩
    rw [provider_get_eq hp, providers_get_eq ha]

-- A ledger, and a diary that is kept as a ledger and holds memos.
def ledger : Definition Unit :=
  .make { TypeDescription.plain "shop.Ledger" with supertypes := ["shop.Journal"] } fun w =>
    .result w.toValue

def diary : Definition Unit :=
  .make { TypeDescription.plain "shop.Diary" with supertypes := ["shop.Memo", "shop.Ledger"] }
    fun w => .result w.toValue

def books : Registry Unit := ⟨[ledger, diary], by decide +kernel⟩

def office : Container Unit :=
  .plain books fun name => .make (.plain name) fun _ => .result .unit

theorem resolution_exact_books :
    books.resolve books.hierarchy "shop.Ledger" = .ok ledger ∧
    books.resolve books.hierarchy "shop.Till" = .error (.componentNotFound "shop.Till") ∧
    books.resolve books.hierarchy "shop.Memo" = .ok diary ∧
    books.resolve books.hierarchy "shop.Journal" =
      .error (.ambiguousComponent "shop.Journal" ["shop.Ledger", "shop.Diary"]) ∧
    (Session.start ()).dropped = false ∧
    (provider "shop.Diary").get (office.services 3) (.start ()) =
      (Handle.toValue <$> office.get (office.services 2) "shop.Memo") (.start ()) := by
  have ⟨named, _⟩ := resolution_exact books office "shop.Ledger"
  have ⟨_, till, _⟩ := resolution_exact books office "shop.Till"
  have ⟨_, memo, provided⟩ := resolution_exact books office "shop.Memo"
  have ⟨_, journal, _⟩ := resolution_exact books office "shop.Journal"
  have hm := (memo (by decide +kernel)).right.left diary rfl
  have hp : office.providers "shop.Memo" = .ok (provider "shop.Diary") := by
    have hr : office.resolve "shop.Memo" = .ok diary := hm
    rw [providers, componentFor, hr]
    rfl
  refine ⟨named ledger (.head _) rfl, (till (by decide +kernel)).left rfl, hm, ?_, rfl, ?_⟩
  case refine_1 => exact (journal (by decide +kernel)).right.right (by decide +kernel)
  case refine_2 => exact (provided 2 (.start ()) rfl).right _ hp

end Container
end Interpose

import Mathlib.Probability.Distributions.Uniform
import QuietHop.Client.Path

namespace QuietHop
namespace Client

open Lib Lib.Selection Net Registry

/-!
# The draw is uniform

`select_with` counts the valid triples, draws an index below the count and walks to the triple
with that index.  What is drawn is a place in each of the three slices, not an entry: two
entries of a document may be equal, and then their paths count twice.  The walk takes the
indices one to one onto the places of the valid triples, so a uniform index gives every one of
them the same probability.
-/

/-- A place in each of the slices the walk runs over. -/
abbrev Place (guards middles exits : List Candidate) : Type :=
  Fin guards.length × Fin middles.length × Fin exits.length

/-- The candidates at a place. -/
def Place.lookup {guards middles exits : List Candidate} (place : Place guards middles exits) :
    Candidate × Candidate × Candidate :=
  (guards.get place.1, middles.get place.2.1, exits.get place.2.2)

/-- The triple at a place satisfies the rules. -/
def Place.valid {guards middles exits : List Candidate} (rules : PathRules) (place : Place guards middles exits) :
    Bool :=
  tripleIsValid rules place.lookup.1 place.lookup.2.1 place.lookup.2.2

/-- The path `select_with` returns for a place. -/
def Place.path {guards middles exits : List Candidate} (place : Place guards middles exits) : SelectedPath :=
  ⟨place.lookup.1.entry, place.lookup.2.1.entry, place.lookup.2.2.entry,
    operatorSpan place.lookup.1 place.lookup.2.1 place.lookup.2.2⟩

/-- The walk, with the place it stops at instead of the candidates there. -/
def walkAt (guards middles exits : List Candidate) (rules : PathRules) (wanted : Nat) :
    Except (Place guards middles exits) Nat :=
  (List.finRange guards.length).foldlM (fun seen g => (List.finRange middles.length).foldlM (fun seen m =>
    (List.finRange exits.length).foldlM (fun seen e =>
      if !tripleIsValid rules (guards.get g) (middles.get m) (exits.get e) then .ok seen
      else if seen = wanted then .error (g, m, e)
      else .ok (seen + 1)) seen) seen) 0

/-- All places, in the order of the loops. -/
def places (guards middles exits : List Candidate) : List (Place guards middles exits) :=
  triples (List.finRange guards.length) (List.finRange middles.length) (List.finRange exits.length)

section Walk

variable (guards middles exits : List Candidate) (rules : PathRules)

theorem triples_eq_map_places :
    triples guards middles exits = (places guards middles exits).map Place.lookup := by
  have elements (slice : List Candidate) : (List.finRange slice.length).map slice.get = slice := by
    rw [← List.ofFn_eq_map, List.ofFn_get]
  calc triples guards middles exits
      = triples ((List.finRange guards.length).map guards.get) ((List.finRange middles.length).map middles.get)
          ((List.finRange exits.length).map exits.get) := by rw [elements, elements, elements]
    _ = (places guards middles exits).map Place.lookup := triples_map _ _ _ _ _ _

theorem nodup_places : (places guards middles exits).Nodup :=
  nodup_triples (List.nodup_finRange _) (List.nodup_finRange _) (List.nodup_finRange _)

theorem mem_places (place : Place guards middles exits) : place ∈ places guards middles exits :=
  mem_triples.mpr ⟨List.mem_finRange _, List.mem_finRange _, List.mem_finRange _⟩

theorem countValid_eq_places :
    countValid guards middles exits rules = (places guards middles exits).foldl (tally (Place.valid rules)) 0 := by
  rw [countValid_eq, triples_eq_map_places, foldl_tally_map]
  rfl

theorem walkAt_eq (wanted : Nat) :
    walkAt guards middles exits rules wanted =
      (places guards middles exits).foldlM (visit (Place.valid rules) wanted) 0 :=
  foldlM_triples (visit (Place.valid rules) wanted) 0 (List.finRange guards.length) (List.finRange middles.length)
    (List.finRange exits.length)

/-- The walk of the source stops at the candidates of the place where this one stops. -/
theorem walk_eq_walkAt (wanted : Nat) :
    walk guards middles exits rules wanted = (walkAt guards middles exits rules wanted).mapError Place.lookup := by
  rw [walk_eq, triples_eq_map_places, foldlM_visit_map, walkAt_eq]
  rfl

/-- The walk takes the indices below the count one to one onto the places of valid triples. -/
theorem walkAt_bijective :
    ∃ place : Fin (countValid guards middles exits rules) -> { p : Place guards middles exits // p.valid rules = true },
      Function.Bijective place ∧
      forall wanted, walkAt guards middles exits rules wanted.val = .error (place wanted).val := by
  rcases foldlM_visit_bijective (Place.valid rules) (nodup_places guards middles exits) (mem_places guards middles exits)
    (countValid_eq_places guards middles exits rules) with ⟨place, bijective, stops⟩
  refine ⟨place, bijective, ?_⟩
  intro wanted
  rw [walkAt_eq, stops]

/-- A draw that is in range returns the path of its place. -/
theorem drawFrom_of_walkAt (genRange : (total : Nat) -> 0 < total -> Fin total)
    (positive : 0 < countValid guards middles exits rules) {place : Place guards middles exits}
    (stops : walkAt guards middles exits rules (genRange _ positive) = .error place) :
    drawFrom guards middles exits rules genRange = some (.ok place.path) := by
  have staffed : (guards.isEmpty || middles.isEmpty || exits.isEmpty) = false := by
    rcases place with ⟨g, m, e⟩
    simp only [Bool.or_eq_false_iff, List.isEmpty_eq_false_iff, ← List.length_pos_iff]
    exact ⟨⟨g.pos, m.pos⟩, e.pos⟩
  have walked : walk guards middles exits rules (genRange _ positive) = .error place.lookup := by
    rw [walk_eq_walkAt, stops]
    rfl
  simp only [drawFrom, staffed, Bool.false_eq_true, if_false, dif_neg (Nat.pos_iff_ne_zero.mp positive), walked]
  rfl

end Walk

/-- A uniform index taken one to one onto some items gives each of them the same probability. -/
theorem uniform_apply {Item : Type} {total : Nat} [Nonempty (Fin total)] {place : Fin total -> Item}
    (bijective : Function.Bijective place) (item : Item) :
    (PMF.uniformOfFintype (Fin total)).map place item = (total : ENNReal)⁻¹ := by
  rcases bijective.surjective item with ⟨wanted, rfl⟩
  rw [PMF.map_apply, tsum_eq_single wanted]
  · simp
  · intro other different
    rw [if_neg (fun same => different (bijective.injective same.symm))]

/-- Selection is exactly uniform over the valid paths of a document.  The index drawn below the
count is taken one to one onto the places of the valid triples, the path returned is the one
at that place, the end of the walk is never reached, and a uniform index gives each valid
triple the same probability. -/
theorem selection_uniform (doc : Document) (rules : PathRules) (now : Int64) (usable : Usable doc now.toInt)
    (formed : ∀ entry ∈ doc.relays, WellFormed entry) :
    ∃ all, candidates doc = .ok all ∧
    ∃ place : Fin (countValid (byRole all "guard") (byRole all "middle") (byRole all "exit") rules) ->
        { p : Place (byRole all "guard") (byRole all "middle") (byRole all "exit") // p.valid rules = true },
      Function.Bijective place ∧
      (forall wanted, walkAt (byRole all "guard") (byRole all "middle") (byRole all "exit") rules wanted.val =
        .error (place wanted).val) ∧
      (doc.relays.length ≤ maxRelays -> forall genRange positive,
        selectWith doc rules now.toInt genRange = some (.ok (place (genRange _ positive)).val.path)) ∧
      (forall genRange, selectWith doc rules now.toInt genRange ≠ none) ∧
      forall [Nonempty (Fin (countValid (byRole all "guard") (byRole all "middle") (byRole all "exit") rules))] p,
        (PMF.uniformOfFintype _).map place p =
          (countValid (byRole all "guard") (byRole all "middle") (byRole all "exit") rules : ENNReal)⁻¹ := by
  rcases mapM_candidate formed with ⟨all, mapped, -, -⟩
  rcases walkAt_bijective (byRole all "guard") (byRole all "middle") (byRole all "exit") rules with
    ⟨place, bijective, stops⟩
  refine ⟨all, mapped, place, bijective, stops, ?_, ?_, ?_⟩
  · intro small genRange positive
    rcases isUsableAt_cases doc now with ⟨-, undated⟩ | ⟨-, -, unusable⟩ | ⟨inside, -⟩
    · exact absurd usable.dated undated
    · exact absurd usable unusable
    · have checked : ¬ doc.relays.length > maxRelays := Nat.not_lt.mpr small
      have read : candidates doc = .ok all := mapped
      simp only [selectWith, inside, if_neg checked, read]
      exact drawFrom_of_walkAt _ _ _ rules genRange positive (stops _)
  · intro genRange
    rcases selectWith_verdict doc rules now genRange with ⟨result, same, -⟩
    rw [same]
    exact Option.some_ne_none result
  · intro _ p
    exact uniform_apply bijective p

/-- Two guards in networks of their own, a middle and an exit. -/
def twoGuards : Document :=
  let relay := fun (id role ip : String) =>
    (⟨id, "op", id, role, ip, 443, "tls", String.ofList (List.replicate 64 'a')⟩ : RelayEntry)
  ⟨1, "2026-10-08T14:00:00Z", "2026-10-08T15:00:00Z", "2026-10-08T20:00:00Z",
    [relay "a" "guard" "10.1.0.1", relay "b" "guard" "10.2.0.1", relay "m" "middle" "10.3.0.1",
      relay "e" "exit" "10.4.0.1"]⟩

/-- Its two paths are drawn with the two indices. -/
theorem selection_uniform_two_guards :
    ∃ all, candidates twoGuards = .ok all ∧
      countValid (byRole all "guard") (byRole all "middle") (byRole all "exit") ⟨false⟩ = 2 ∧
      ∃ place : Fin (countValid (byRole all "guard") (byRole all "middle") (byRole all "exit") ⟨false⟩) ->
          { p : Place (byRole all "guard") (byRole all "middle") (byRole all "exit") // p.valid ⟨false⟩ = true },
        Function.Bijective place ∧ forall genRange positive,
          selectWith twoGuards ⟨false⟩ (1791468000 : Int64).toInt genRange =
            some (.ok (place (genRange _ positive)).val.path) := by
  have usable : Usable twoGuards (1791468000 : Int64).toInt :=
    ⟨1791468000, 1791489600, by decide +kernel, by decide +kernel, by decide +kernel, by decide +kernel⟩
  have formed : ∀ entry ∈ twoGuards.relays, WellFormed entry := by
    intro entry member
    rw [wellFormed_iff]
    simp only [twoGuards, List.mem_cons, List.not_mem_nil, or_false] at member
    rcases member with rfl | rfl | rfl | rfl
    · exact ⟨.v4 ⟨[10, 1, 0, 1], rfl⟩, by decide +kernel, by decide +kernel⟩
    · exact ⟨.v4 ⟨[10, 2, 0, 1], rfl⟩, by decide +kernel, by decide +kernel⟩
    · exact ⟨.v4 ⟨[10, 3, 0, 1], rfl⟩, by decide +kernel, by decide +kernel⟩
    · exact ⟨.v4 ⟨[10, 4, 0, 1], rfl⟩, by decide +kernel, by decide +kernel⟩
  have counted : (candidates twoGuards).map (fun all =>
      countValid (byRole all "guard") (byRole all "middle") (byRole all "exit") ⟨false⟩) = .ok 2 := by
    decide +kernel
  rcases selection_uniform twoGuards ⟨false⟩ 1791468000 usable formed with ⟨all, read, place, bijective, -, selected, -⟩
  rw [read] at counted
  exact ⟨all, read, Except.ok.inj counted, place, bijective, selected (by decide)⟩

end Client
end QuietHop

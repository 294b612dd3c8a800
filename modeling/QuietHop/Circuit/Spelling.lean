import QuietHop.Client.Path
import QuietHop.Relay.Registry

namespace QuietHop
namespace Circuit

open Lib Lib.Selection Net Registry Relay Client

/-!
# The spelling of an address decides nothing

An IPv4 host has two spellings, `a.b.c.d` and `::ffff:a.b.c.d`.  A document may use either
for any of its entries, and so may the address of a peer or of an EXTEND target.  Whom a relay
admits, which entry an EXTEND names and which entries a client picks depend on the hosts alone.
The source hands out references to entries, so the results below speak of places in the
document: two entries may be equal, and the texts of two respelled entries differ.
-/

/-! ## Two spellings of one host -/

/-- The literal `ip` is one of the two spellings of an IPv4 host. -/
def Spells (host : Ipv4Addr) (ip : IpAddr) : Prop :=
  ip = .v4 host ∨ ip = .v6 host.toIpv6Mapped

/-- The same literal, or two spellings of one IPv4 host. -/
def SameHost (left right : IpAddr) : Prop :=
  left = right ∨ ∃ host, Spells host left ∧ Spells host right

/-- The entries agree but for the spelling of the address. -/
structure Respells (entry other : RelayEntry) : Prop where
  rest : { entry with ip := other.ip } = other
  host : entry.ip = other.ip ∨
    ∃ left right, parseIpAddr entry.ip = some left ∧ parseIpAddr other.ip = some right ∧ SameHost left right

/-- The documents agree but for the spelling of their entries' addresses. -/
structure Respelled (doc other : Document) : Prop where
  rest : { doc with relays := other.relays } = other
  relays : List.Forall₂ Respells doc.relays other.relays

theorem canonicalIp_of_spells {host : Ipv4Addr} {ip : IpAddr} (spells : Spells host ip) :
    canonicalIp ip = .v4 host := by
  rcases spells with rfl | rfl
  · exact canonicalIp_v4 host
  · exact canonicalIp_mapped host

theorem SameHost.canonicalIp_eq {left right : IpAddr} (same : SameHost left right) :
    canonicalIp left = canonicalIp right := by
  rcases same with rfl | ⟨host, first, second⟩
  · rfl
  · rw [canonicalIp_of_spells first, canonicalIp_of_spells second]

theorem SameHost.canonicalAddr_eq {left right : SocketAddr} (same : SameHost left.ip right.ip)
    (port : left.port = right.port) : canonicalAddr left = canonicalAddr right := by
  rw [canonicalAddr, canonicalAddr, same.canonicalIp_eq, port]

theorem readIpv4Addr_of_parse {text : String} {host : Ipv4Addr} (parsed : parseIpAddr text = some (.v4 host)) :
    Literal.readIpv4Addr (asBytes text) = some (host, []) := by
  simp only [parseIpAddr, Literal.readIpAddr] at parsed
  split at parsed
  · next ip found =>
      split at found
      · next first =>
          cases found
          cases parsed
          exact first
      · cases parsed
        simp at found
  · cases parsed

theorem ofGroups_mapped (host : Ipv4Addr) :
    Literal.ofGroups [0, 0, 0, 0, 0, 65535, BigEndian.toNat (host.octets.take 2), BigEndian.toNat (host.octets.drop 2)] =
      some host.toIpv6Mapped := by
  have high : BigEndian.ofNat 2 (BigEndian.toNat (host.octets.take 2)) = host.octets.take 2 := by
    simpa [host.length_eq] using BigEndian.ofNat_toNat (host.octets.take 2)
  have low : BigEndian.ofNat 2 (BigEndian.toNat (host.octets.drop 2)) = host.octets.drop 2 := by
    simpa [host.length_eq] using BigEndian.ofNat_toNat (host.octets.drop 2)
  have octets : ([0, 0, 0, 0, 0, 65535, BigEndian.toNat (host.octets.take 2),
      BigEndian.toNat (host.octets.drop 2)].map (BigEndian.ofNat 2)).flatten = host.toIpv6Mapped.octets := by
    calc _ = mappedHead ++ (BigEndian.ofNat 2 (BigEndian.toNat (host.octets.take 2)) ++
          BigEndian.ofNat 2 (BigEndian.toNat (host.octets.drop 2))) := by
            simp [mappedHead, List.replicate, BigEndian.ofNat]
      _ = mappedHead ++ host.octets := by rw [high, low, List.take_append_drop]
  simp only [Literal.ofGroups, octets, host.toIpv6Mapped.length_eq, dite_true]

/-- Every IPv4 literal has its other spelling, so every entry with one can be respelled. -/
theorem parseIpAddr_mapped {text : String} {host : Ipv4Addr} (parsed : parseIpAddr text = some (.v4 host)) :
    parseIpAddr ("::ffff:" ++ text) = some (.v6 host.toIpv6Mapped) := by
  have read := readIpv4Addr_of_parse parsed
  have bytes : asBytes ("::ffff:" ++ text) = [58, 58, 102, 102, 102, 102, 58] ++ asBytes text := by
    simp only [asBytes, String.toUTF8_eq_toByteArray, String.toByteArray_append, ByteArray.data_append,
      Array.toList_append]
    rfl
  -- the group `ffff`, then the address in the place of the last two groups
  have last : Literal.readGroups 6 1 (58 :: asBytes text) =
      ([BigEndian.toNat (host.octets.take 2), BigEndian.toNat (host.octets.drop 2)], true, []) := by
    rw [Literal.readGroups]
    simp [Literal.readSeparator, Literal.readGivenChar, read]
  have groups : Literal.readGroups 7 0 (102 :: 102 :: 102 :: 102 :: 58 :: asBytes text) =
      ([65535, BigEndian.toNat (host.octets.take 2), BigEndian.toNat (host.octets.drop 2)], true, []) := by
    have group : Literal.readNumber 16 4 65535 true (102 :: 102 :: 102 :: 102 :: 58 :: asBytes text) =
        some (65535, 58 :: asBytes text) := rfl
    have plain : Literal.readIpv4Addr (102 :: 102 :: 102 :: 102 :: 58 :: asBytes text) = none := rfl
    rw [Literal.readGroups]
    simp [Literal.readSeparator, group, plain, last]
  have mapped : Literal.readIpv6Addr (58 :: 58 :: 102 :: 102 :: 102 :: 102 :: 58 :: asBytes text) =
      some (host.toIpv6Mapped, []) := by
    have head : Literal.readGroups 8 0 (58 :: 58 :: 102 :: 102 :: 102 :: 102 :: 58 :: asBytes text) =
        ([], false, 58 :: 58 :: 102 :: 102 :: 102 :: 102 :: 58 :: asBytes text) := rfl
    simp [Literal.readIpv6Addr, head, groups, Literal.readGivenChar, ofGroups_mapped]
  have plain : Literal.readIpv4Addr (58 :: 58 :: 102 :: 102 :: 102 :: 102 :: 58 :: asBytes text) = none := rfl
  simp [parseIpAddr, bytes, Literal.readIpAddr, plain, mapped]

theorem respells_mapped {entry : RelayEntry} {host : Ipv4Addr} (parsed : parseIpAddr entry.ip = some (.v4 host)) :
    Respells entry { entry with ip := "::ffff:" ++ entry.ip } :=
  ⟨rfl, .inr ⟨_, _, parsed, parseIpAddr_mapped parsed, .inr ⟨host, .inl rfl, .inr rfl⟩⟩⟩

/-! ## What is read of a respelled entry -/

section Entry

variable {entry other : RelayEntry}

theorem Respells.ipAddr_eq (same : Respells entry other) : entry.ipAddr = other.ipAddr := by
  rcases same.host with text | ⟨left, right, first, second, hosts⟩
  · rw [RelayEntry.ipAddr, RelayEntry.ipAddr, text]
  · simp only [RelayEntry.ipAddr, first, second, hosts.canonicalIp_eq]

theorem Respells.role_eq (same : Respells entry other) : entry.role = other.role := by
  rw [← same.rest]

theorem Respells.addr_eq (same : Respells entry other) : entry.addr = other.addr := by
  have port : entry.port = other.port := by rw [← same.rest]
  rw [RelayEntry.addr, RelayEntry.addr, same.ipAddr_eq, port]

end Entry

/-- A candidate without the text of its address, which is all that the selection reads. -/
def blank (c : Candidate) : Candidate :=
  { c with entry := { c.entry with ip := "" } }

theorem Respells.candidate_eq {entry other : RelayEntry} (same : Respells entry other) :
    (candidate entry).map blank = (candidate other).map blank := by
  have read := same.ipAddr_eq
  have rest := same.rest
  rcases other with ⟨id, operatorId, hostId, role, ip, port, tlsName, staticPubkey⟩
  rcases entry with ⟨_, _, _, _, _, _, _, _⟩
  cases rest
  simp only [candidate, read]
  split_ifs
  · rfl
  · cases RelayEntry.ipAddr _ <;> rfl

/-! ## Places in the document -/

/-- The candidate of an entry, with the entry's place. -/
def placeOf (item : RelayEntry × Nat) : Except ClientError (Nat × Candidate) :=
  (candidate item.1).map fun c => (item.2, c)

/-- The candidates of a document, each with the place of its entry. -/
def placed (doc : Document) : Except ClientError (List (Nat × Candidate)) :=
  doc.relays.zipIdx.mapM placeOf

def placedByRole (all : List (Nat × Candidate)) (role : String) : List (Nat × Candidate) :=
  all.filter fun c => c.2.entry.role == role

/-- The walk to the wanted triple. -/
def walkPlaces (guards middles exits : List (Nat × Candidate)) (rules : PathRules) (wanted : Nat) :
    Except ((Nat × Candidate) × (Nat × Candidate) × Nat × Candidate) Nat :=
  guards.foldlM (fun seen g => middles.foldlM (fun seen m => exits.foldlM (fun seen e =>
    if !tripleIsValid rules g.2 m.2 e.2 then .ok seen
    else if seen = wanted then .error (g, m, e)
    else .ok (seen + 1)) seen) seen) 0

def drawPlaces (guards middles exits : List (Nat × Candidate)) (rules : PathRules)
    (genRange : (total : Nat) -> 0 < total -> Fin total) : Option (Except ClientError (Nat × Nat × Nat)) :=
  if guards.isEmpty || middles.isEmpty || exits.isEmpty then some (.error (.noPath .insufficientRelays))
  else
    let total := countValid (guards.map Prod.snd) (middles.map Prod.snd) (exits.map Prod.snd) rules
    if zero : total = 0 then some (.error (.noPath .diversityUnsatisfiable))
    else
      match walkPlaces guards middles exits rules (genRange total (Nat.pos_of_ne_zero zero)) with
      | .error (g, m, e) => some (.ok (g.1, m.1, e.1))
      | .ok _ => none

/-- `select_with`, with the places of the entries it refers to. -/
def selectPlaces (doc : Document) (rules : PathRules) (nowUnix : Int)
    (genRange : (total : Nat) -> 0 < total -> Fin total) : Option (Except ClientError (Nat × Nat × Nat)) :=
  match doc.isUsableAt nowUnix with
  | .error reason => some (.error (.registry reason))
  | .ok false => some (.error (.noPath .registryUnusable))
  | .ok true =>
      if doc.relays.length > maxRelays then some (.error (.noPath .registryTooLarge))
      else
        match placed doc with
        | .error reason => some (.error reason)
        | .ok all =>
            drawPlaces (placedByRole all "guard") (placedByRole all "middle") (placedByRole all "exit") rules genRange

/-- A selection returns the entries at some places, or fails for the reason given. -/
inductive Picks (doc : Document) : Except ClientError (Nat × Nat × Nat) -> Except ClientError SelectedPath -> Prop
  | fails (reason : ClientError) : Picks doc (.error reason) (.error reason)
  | path {g m e : Nat} {path : SelectedPath} (guard : doc.relays[g]? = some path.guard)
      (middle : doc.relays[m]? = some path.middle) (exit : doc.relays[e]? = some path.exit) :
      Picks doc (.ok (g, m, e)) (.ok path)

/-- Every candidate stands at the place of its entry. -/
def Located (doc : Document) (all : List (Nat × Candidate)) : Prop :=
  ∀ c ∈ all, doc.relays[c.1]? = some c.2.entry

section Walk

variable (guards middles exits : List (Nat × Candidate)) (rules : PathRules)

theorem walkPlaces_eq (wanted : Nat) :
    walkPlaces guards middles exits rules wanted =
      (triples guards middles exits).foldlM (visit (fun t => tripleIsValid rules t.1.2 t.2.1.2 t.2.2.2) wanted) 0 :=
  foldlM_triples (visit (fun t : (Nat × Candidate) × (Nat × Candidate) × Nat × Candidate =>
    tripleIsValid rules t.1.2 t.2.1.2 t.2.2.2) wanted) 0 guards middles exits

/-- The walk of the source stops at the candidates where this one stops. -/
theorem walk_eq_walkPlaces (wanted : Nat) :
    walk (guards.map Prod.snd) (middles.map Prod.snd) (exits.map Prod.snd) rules wanted =
      (walkPlaces guards middles exits rules wanted).mapError (Prod.map Prod.snd (Prod.map Prod.snd Prod.snd)) := by
  rw [walk_eq, triples_map, foldlM_visit_map, walkPlaces_eq]
  rfl

/-- The walk stops at a triple of the slices. -/
theorem mem_of_walkPlaces {wanted : Nat} {g m e : Nat × Candidate}
    (stops : walkPlaces guards middles exits rules wanted = .error (g, m, e)) :
    g ∈ guards ∧ m ∈ middles ∧ e ∈ exits := by
  rw [walkPlaces_eq, foldlM_visit _ _ _ _ (Nat.zero_le _)] at stops
  split at stops
  · next found =>
      cases stops
      exact mem_triples.mp (List.mem_filter.mp (List.mem_of_getElem? found)).1
  · cases stops

/-- The draw of the source returns the entries at the places drawn here. -/
theorem drawFrom_picks {doc : Document} (genRange : (total : Nat) -> 0 < total -> Fin total)
    (locatedG : Located doc guards) (locatedM : Located doc middles) (locatedE : Located doc exits) :
    Option.Rel (Picks doc) (drawPlaces guards middles exits rules genRange)
      (drawFrom (guards.map Prod.snd) (middles.map Prod.snd) (exits.map Prod.snd) rules genRange) := by
  simp only [drawPlaces, drawFrom, List.isEmpty_map]
  split_ifs with empty zero
  · exact .some (.fails _)
  · exact .some (.fails _)
  · rw [walk_eq_walkPlaces]
    cases stops : walkPlaces guards middles exits rules _ with
    | ok _ => exact .none
    | error found =>
        rcases found with ⟨g, m, e⟩
        rcases mem_of_walkPlaces guards middles exits rules stops with ⟨isGuard, isMiddle, isExit⟩
        exact .some (.path (locatedG g isGuard) (locatedM m isMiddle) (locatedE e isExit))

end Walk

theorem map_mapM {Item Value Image : Type} (read : Item -> Except ClientError Value) (image : Value -> Image)
    (items : List Item) :
    (items.mapM read).map (List.map image) = items.mapM fun item => (read item).map image := by
  induction items with
  | nil => rfl
  | cons item items ih =>
      rw [List.mapM_cons, List.mapM_cons, ← ih]
      cases read item with
      | error _ => rfl
      | ok value => cases items.mapM read <;> rfl

theorem exists_of_mem_mapM {Item Value : Type} {read : Item -> Except ClientError Value} {items : List Item}
    {values : List Value} (mapped : items.mapM read = .ok values) :
    ∀ value ∈ values, ∃ item ∈ items, read item = .ok value := by
  induction items generalizing values with
  | nil =>
      cases mapped
      simp
  | cons item items ih =>
      rw [List.mapM_cons] at mapped
      cases first : read item with
      | error _ =>
          rw [first] at mapped
          cases mapped
      | ok head =>
          cases others : items.mapM read with
          | error _ =>
              rw [first, others] at mapped
              cases mapped
          | ok tail =>
              rw [first, others] at mapped
              cases mapped
              refine List.forall_mem_cons.mpr ⟨⟨item, List.mem_cons_self, first⟩, ?_⟩
              intro value member
              rcases ih others value member with ⟨source, inside, same⟩
              exact ⟨source, List.mem_cons_of_mem _ inside, same⟩

theorem candidates_eq_placed (doc : Document) : candidates doc = (placed doc).map (List.map Prod.snd) := by
  have forget : (fun item => (placeOf item).map Prod.snd) = candidate ∘ Prod.fst := by
    funext item
    rw [placeOf, Function.comp_apply]
    cases candidate item.1 <;> rfl
  rw [placed, map_mapM, forget, ← List.mapM_map, List.zipIdx_map_fst, candidates]

/-- A candidate holds the entry it was read from. -/
theorem entry_of_candidate {entry : RelayEntry} {c : Candidate} (read : candidate entry = .ok c) : c.entry = entry := by
  rw [candidate] at read
  split_ifs at read
  split at read
  · cases read
  · cases read
    rfl

theorem located_of_placed {doc : Document} {all : List (Nat × Candidate)} (read : placed doc = .ok all) :
    Located doc all := by
  intro c member
  rcases exists_of_mem_mapM read c member with ⟨⟨entry, place⟩, listed, same⟩
  rw [placeOf] at same
  cases accepted : candidate entry with
  | error _ =>
      rw [accepted] at same
      cases same
  | ok stands =>
      rw [accepted] at same
      cases same
      rw [entry_of_candidate accepted]
      exact List.mk_mem_zipIdx_iff_getElem?.mp listed

theorem map_snd_placedByRole (all : List (Nat × Candidate)) (role : String) :
    (placedByRole all role).map Prod.snd = byRole (all.map Prod.snd) role := by
  rw [byRole, List.filter_map]
  rfl

theorem Located.placedByRole {doc : Document} {all : List (Nat × Candidate)} (located : Located doc all)
    (role : String) : Located doc (placedByRole all role) :=
  fun c member => located c (List.mem_filter.mp member).1

/-- The selection of the source returns the entries at the places selected here. -/
theorem selectWith_picks (doc : Document) (rules : PathRules) (nowUnix : Int)
    (genRange : (total : Nat) -> 0 < total -> Fin total) :
    Option.Rel (Picks doc) (selectPlaces doc rules nowUnix genRange) (selectWith doc rules nowUnix genRange) := by
  rw [selectPlaces, selectWith, candidates_eq_placed]
  cases doc.isUsableAt nowUnix with
  | error reason => exact .some (.fails _)
  | ok usable =>
      cases usable with
      | false => exact .some (.fails _)
      | true =>
          dsimp only
          split_ifs
          · exact .some (.fails _)
          · cases read : placed doc with
            | error reason => exact .some (.fails reason)
            | ok all =>
                have located := located_of_placed read
                simp only [Except.map, ← map_snd_placedByRole]
                exact drawFrom_picks _ _ _ rules genRange (located.placedByRole _) (located.placedByRole _)
                  (located.placedByRole _)

/-! ## The places do not depend on the spelling -/

/-- The same without the text of the address. -/
def blankAt : Nat × Candidate -> Nat × Candidate :=
  Prod.map id blank

section Blank

variable (guards middles exits : List (Nat × Candidate)) (rules : PathRules)

theorem countValid_blank :
    countValid ((guards.map blankAt).map Prod.snd) ((middles.map blankAt).map Prod.snd)
        ((exits.map blankAt).map Prod.snd) rules =
      countValid (guards.map Prod.snd) (middles.map Prod.snd) (exits.map Prod.snd) rules := by
  simp only [countValid_eq, triples_map, foldl_tally_map]
  rfl

theorem walkPlaces_blank (wanted : Nat) :
    walkPlaces (guards.map blankAt) (middles.map blankAt) (exits.map blankAt) rules wanted =
      (walkPlaces guards middles exits rules wanted).mapError (Prod.map blankAt (Prod.map blankAt blankAt)) := by
  rw [walkPlaces_eq, walkPlaces_eq, triples_map, foldlM_visit_map]
  rfl

theorem drawPlaces_blank (genRange : (total : Nat) -> 0 < total -> Fin total) :
    drawPlaces (guards.map blankAt) (middles.map blankAt) (exits.map blankAt) rules genRange =
      drawPlaces guards middles exits rules genRange := by
  -- the drawn index depends on the count, so the two counts are identified first
  have counted := countValid_blank guards middles exits rules
  simp only [drawPlaces, List.isEmpty_map, walkPlaces_blank]
  generalize countValid ((guards.map blankAt).map Prod.snd) _ _ rules = total at counted ⊢
  subst counted
  split_ifs with empty zero
  · rfl
  · rfl
  · generalize walkPlaces guards middles exits rules _ = walked
    cases walked <;> rfl

end Blank

theorem placedByRole_blank (all : List (Nat × Candidate)) (role : String) :
    placedByRole (all.map blankAt) role = (placedByRole all role).map blankAt := by
  rw [placedByRole, List.filter_map]
  rfl

theorem Respells.placeOf_eq {entry other : RelayEntry} (same : Respells entry other) (place : Nat) :
    (placeOf (entry, place)).map blankAt = (placeOf (other, place)).map blankAt := by
  have blanked := congrArg (Except.map fun c => (place, c)) same.candidate_eq
  rw [placeOf, placeOf]
  revert blanked
  cases candidate entry <;> cases candidate other <;> exact id

theorem mapM_placeOf_eq {relays others : List RelayEntry} (same : List.Forall₂ Respells relays others) (start : Nat) :
    (relays.zipIdx start).mapM (fun item => (placeOf item).map blankAt) =
      (others.zipIdx start).mapM fun item => (placeOf item).map blankAt := by
  induction same generalizing start with
  | nil => rfl
  | cons first _ ih => rw [List.zipIdx_cons, List.zipIdx_cons, List.mapM_cons, List.mapM_cons, first.placeOf_eq, ih]

theorem Respelled.placed_eq {doc other : Document} (same : Respelled doc other) :
    (placed doc).map (List.map blankAt) = (placed other).map (List.map blankAt) := by
  rw [placed, placed, map_mapM, map_mapM]
  exact mapM_placeOf_eq same.relays 0

/-- A selection is made at the same places of a respelled document, or fails for the same
reason. -/
theorem Respelled.selectPlaces_eq {doc other : Document} (same : Respelled doc other) (rules : PathRules)
    (nowUnix : Int) (genRange : (total : Nat) -> 0 < total -> Fin total) :
    selectPlaces doc rules nowUnix genRange = selectPlaces other rules nowUnix genRange := by
  have window : doc.isUsableAt nowUnix = other.isUsableAt nowUnix := by
    rw [← same.rest]
    rfl
  have placedAlike := same.placed_eq
  rw [selectPlaces, selectPlaces, window, same.relays.length_eq]
  cases readDoc : placed doc with
  | error reason =>
      cases readOther : placed other with
      | error reason' =>
          rw [readDoc, readOther] at placedAlike
          cases placedAlike
          rfl
      | ok all' =>
          rw [readDoc, readOther] at placedAlike
          cases placedAlike
  | ok all =>
      cases readOther : placed other with
      | error reason' =>
          rw [readDoc, readOther] at placedAlike
          cases placedAlike
      | ok all' =>
          rw [readDoc, readOther] at placedAlike
          have alike : all.map blankAt = all'.map blankAt := Except.ok.inj placedAlike
          have slices (role : String) :
              (placedByRole all role).map blankAt = (placedByRole all' role).map blankAt := by
            rw [← placedByRole_blank, ← placedByRole_blank, alike]
          have drawn : drawPlaces (placedByRole all "guard") (placedByRole all "middle") (placedByRole all "exit") rules
              genRange = drawPlaces (placedByRole all' "guard") (placedByRole all' "middle")
                (placedByRole all' "exit") rules genRange := by
            rw [← drawPlaces_blank, slices, slices, slices, drawPlaces_blank]
          simp only [drawn]

/-! ## The relay's decisions -/

/-- The place of the entry `extend_target` finds. -/
def extendPlace (doc : Verified) (role : Role) (next : SocketAddr) : Option Nat :=
  match downstreamRole role with
  | none => none
  | some want =>
      doc.document.relays.findIdx? fun e =>
        e.role == want && match e.addr with
          | .ok a => a == canonicalAddr next
          | .error _ => false

theorem find?_eq_findIdx?_bind {Item : Type} (test : Item -> Bool) (items : List Item) :
    items.find? test = (items.findIdx? test).bind fun place => items[place]? := by
  induction items with
  | nil => rfl
  | cons item items ih =>
      cases passes : test item with
      | true => simp [List.findIdx?_cons, passes]
      | false =>
          rw [List.find?_cons_of_neg (by simp [passes]), ih]
          simp [List.findIdx?_cons, passes, Option.bind_map]

theorem extendTarget_eq (doc : Verified) (role : Role) (next : SocketAddr) :
    extendTarget doc role next = (extendPlace doc role next).bind fun place => doc.document.relays[place]? := by
  rw [extendTarget, extendPlace]
  cases downstreamRole role with
  | none => rfl
  | some want => exact find?_eq_findIdx?_bind _ _

/-- A test that gives related items the same answer finds the same places. -/
theorem findIdx?_of_related {relays others : List RelayEntry} (same : List.Forall₂ Respells relays others)
    {test test' : RelayEntry -> Bool} (agree : forall {entry other}, Respells entry other -> test entry = test' other) :
    relays.findIdx? test = others.findIdx? test' := by
  induction same with
  | nil => rfl
  | cons first _ ih => rw [List.findIdx?_cons, List.findIdx?_cons, agree first, ih]

theorem any_of_related {relays others : List RelayEntry} (same : List.Forall₂ Respells relays others)
    {test test' : RelayEntry -> Bool} (agree : forall {entry other}, Respells entry other -> test entry = test' other) :
    relays.any test = others.any test' := by
  rw [← List.findIdx?_isSome, ← List.findIdx?_isSome, findIdx?_of_related same agree]

theorem admitsInbound_respelled {doc other : Verified} (same : Respelled doc.document other.document) (role : Role)
    {peer peer' : IpAddr} (hosts : SameHost peer peer') : admitsInbound doc role peer = admitsInbound other role peer' := by
  rw [admitsInbound, admitsInbound]
  cases upstreamRole role with
  | none => rfl
  | some want =>
      refine any_of_related same.relays fun {entry _} respells => ?_
      rw [respells.role_eq, respells.ipAddr_eq, hosts.canonicalIp_eq]

theorem extendPlace_respelled {doc other : Verified} (same : Respelled doc.document other.document) (role : Role)
    {next next' : SocketAddr} (hosts : SameHost next.ip next'.ip) (port : next.port = next'.port) :
    extendPlace doc role next = extendPlace other role next' := by
  rw [extendPlace, extendPlace]
  cases downstreamRole role with
  | none => rfl
  | some want =>
      refine findIdx?_of_related same.relays fun {entry _} respells => ?_
      rw [respells.role_eq, respells.addr_eq, hosts.canonicalAddr_eq port]

/-- The spelling of addresses changes no decision.  Over two documents that differ only in how
the hosts of their entries are spelled, and for a peer and an EXTEND target in either spelling,
a relay admits the same peers and follows an EXTEND to the entry at the same place or in neither,
and a client picks the entries at the same places or fails for the same reason. -/
theorem spelling_decides_nothing {doc other : Verified} (same : Respelled doc.document other.document) :
    (forall role peer peer', SameHost peer peer' -> admitsInbound doc role peer = admitsInbound other role peer') ∧
    (forall role next next', SameHost next.ip next'.ip -> next.port = next'.port ->
      ∃ place : Option Nat,
        extendPlace doc role next = place ∧ extendPlace other role next' = place ∧
        extendTarget doc role next = place.bind (fun i => doc.document.relays[i]?) ∧
        extendTarget other role next' = place.bind fun i => other.document.relays[i]?) ∧
    forall rules nowUnix genRange,
      ∃ places, selectPlaces doc.document rules nowUnix genRange = places ∧
        selectPlaces other.document rules nowUnix genRange = places ∧
        Option.Rel (Picks doc.document) places (selectWith doc.document rules nowUnix genRange) ∧
        Option.Rel (Picks other.document) places (selectWith other.document rules nowUnix genRange) := by
  refine ⟨?_, ?_, ?_⟩
  · intro role peer peer' hosts
    exact admitsInbound_respelled same role hosts
  · intro role next next' hosts port
    have place := extendPlace_respelled same role hosts port
    refine ⟨_, rfl, place.symm, extendTarget_eq doc role next, ?_⟩
    rw [place]
    exact extendTarget_eq other role next'
  · intro rules nowUnix genRange
    have places := same.selectPlaces_eq rules nowUnix genRange
    refine ⟨_, rfl, places.symm, selectWith_picks _ rules nowUnix genRange, ?_⟩
    rw [places]
    exact selectWith_picks _ rules nowUnix genRange

/-- A guard, a middle and an exit, their addresses spelled as asked. -/
def listing (spell : String -> String) : Verified :=
  let relay := fun (id role ip : String) =>
    (⟨id, "op", id, role, spell ip, 443, "tls", String.ofList (List.replicate 64 'a')⟩ : RelayEntry)
  ⟨⟨1, "2026-10-08T14:00:00Z", "2026-10-08T15:00:00Z", "2026-10-08T20:00:00Z",
    [relay "a" "guard" "10.1.0.1", relay "b" "middle" "10.2.0.1", relay "c" "exit" "10.3.0.1"]⟩, [], []⟩

/-- The middle of a document in mapped spelling admits its guard under the plain one, as it
does where the document is plain, and the client picks the three entries of either. -/
theorem spelling_decides_nothing_listing :
    admitsInbound (listing ("::ffff:" ++ ·)) .middle (.v4 ⟨[10, 1, 0, 1], rfl⟩) = true ∧
    ∃ result, selectWith (listing ("::ffff:" ++ ·)).document ⟨false⟩ 1791468000 (fun _ positive => ⟨0, positive⟩) =
        some result ∧ Picks (listing ("::ffff:" ++ ·)).document (.ok (0, 1, 2)) result := by
  have same : Respelled (listing id).document (listing ("::ffff:" ++ ·)).document := by
    refine ⟨rfl, .cons (@respells_mapped _ ⟨[10, 1, 0, 1], rfl⟩ ?_) (.cons (@respells_mapped _ ⟨[10, 2, 0, 1], rfl⟩ ?_)
      (.cons (@respells_mapped _ ⟨[10, 3, 0, 1], rfl⟩ ?_) .nil))⟩ <;> decide +kernel
  have decided := spelling_decides_nothing same
  constructor
  · rw [← decided.1 .middle (.v6 (Ipv4Addr.toIpv6Mapped ⟨[10, 1, 0, 1], rfl⟩)) _ (.inr ⟨_, .inr rfl, .inl rfl⟩)]
    decide +kernel
  · rcases decided.2.2 ⟨false⟩ 1791468000 (fun _ positive => ⟨0, positive⟩) with ⟨places, plain, -, -, picks⟩
    have first : selectPlaces (listing id).document ⟨false⟩ 1791468000 (fun _ positive => ⟨0, positive⟩) =
        some (.ok (0, 1, 2)) := by decide +kernel
    rw [first] at plain
    subst plain
    cases result : selectWith (listing ("::ffff:" ++ ·)).document ⟨false⟩ 1791468000 (fun _ positive => ⟨0, positive⟩) with
    | none =>
        rw [result] at picks
        cases picks
    | some found =>
        rw [result] at picks
        cases picks with
        | some picked => exact ⟨found, rfl, picked⟩

end Circuit
end QuietHop

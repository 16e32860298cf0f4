import KiTicket.Sectors

/-! The layout of a venue. It sorts the seats of a sector by the text of their row labels,
which is the order of the rows as long as the labels are single letters: from the row
after Z on, a longer label comes before a shorter one. -/
namespace KiTicket
open Runs Venues

variable {cfg : Config} {listing listing' : Listing} {c : Choice} {p p' : CatalogProc}
  {sector : Sector} {body : CreateSectorDto} {s s' : Site} {a : Site.Action} {seats : List Seat}
  {ids : List Uuid} {ts : List (Transition Site Site.Action)} {i j rows : Nat}

/-! ## A sector keeps its seats -/

/-- The seats of a sector are these, and no request is about to save more. -/
structure Site.Settled (s : Site) (sector : Sector) (seats : List Seat) : Prop where
  stored : sector ∈ s.db.catalog.sectors.rows
  seats : s.db.catalog.seatsIn sector = seats
  closed : ∀ p ∈ s.procs, sector.id ∉ p.claims

theorem Site.Settled.next (settled : s.Settled sector seats) (taken : Site.step cfg s a = some s') :
    s'.Settled sector seats := by
  cases Site.step_cases taken
  case booking a world moves =>
    have same : world.db.catalog = s.db.catalog := catalog_of_step moves
    exact ⟨same ▸ settled.stored, same ▸ settled.seats, settled.closed⟩
  case request r accepted =>
    refine ⟨settled.stored, settled.seats, fun p member => ?_⟩
    rcases List.mem_append.mp member with old | new
    · exact settled.closed p old
    · rw [List.mem_singleton.mp new, claims_request]
      exact List.not_mem_nil
  case crash pid p serving =>
    exact ⟨settled.stored, settled.seats,
      Pool.forall_set settled.closed List.not_mem_nil fun _ _ _ _ => id⟩
  case turn pid c p p' listing serving turn =>
    cases CatalogProc.builds turn
    case idle sectors seats none =>
      refine ⟨?_, ?_, Pool.forall_set settled.closed ?_ fun _ _ _ _ => id⟩
      · change sector ∈ listing.catalog.sectors.rows
        rw [sectors]
        exact settled.stored
      · change listing.catalog.seatsIn sector = _
        rw [Catalog.seatsIn, seats]
        exact settled.seats
      · rw [(CatalogProc.claims_of_idle none).2]
        exact List.not_mem_nil
    case sector venueId body new asks sectors seats goes =>
      subst goes
      refine ⟨?_, ?_, Pool.forall_set settled.closed ?_ fun _ _ _ _ => id⟩
      · change sector ∈ listing.catalog.sectors.rows
        rw [Table.insert?_eq_some.mp sectors]
        exact List.mem_append_left _ settled.stored
      · change listing.catalog.seatsIn sector = _
        rw [Catalog.seatsIn, seats]
        exact settled.seats
      · intro claims
        exact fresh_of_insert sectors sector settled.stored (List.mem_singleton.mp claims)
    case seats other body asks sectors saved all answered =>
      subst asks answered
      have another : sector.id ≠ other.id := fun same =>
        settled.closed _ (List.mem_of_getElem? serving) (same ▸ List.mem_cons_self)
      have none : (grid other body c.ids).filter (·.sectorId = sector.id) = [] :=
        List.filter_eq_nil_iff.mpr fun seat member => by
          rw [own_of_grid member, decide_eq_true_eq]
          exact Ne.symm another
      refine ⟨?_, ?_, Pool.forall_set settled.closed List.not_mem_nil fun _ _ _ _ => id⟩
      · change sector ∈ listing.catalog.sectors.rows
        rw [sectors]
        exact settled.stored
      · change listing.catalog.seatsIn sector = _
        rw [Catalog.seatsIn, Table.insert?_eq_some.mp saved, List.filter_append, none,
          List.append_nil]
        exact settled.seats

/-- The sector whose seats a step saves, and the body they come from. -/
def built (t : Transition Site Site.Action) : List (Sector × CreateSectorDto) :=
  match t.action with
  | .turn pid _ =>
    match t.source.procs[pid]?, t.target.procs[pid]? with
    | some (.createSector (.saveSeats sector body)), some (.done (.sector _ _)) => [(sector, body)]
    | _, _ => []
  | _ => []

/-- A sector that was built has the seats of its grid. -/
theorem settled_of_built (laid : s.Laid) (taken : Site.step cfg s a = some s')
    (builds : (sector, body) ∈ built ⟨s, a, s'⟩) :
    ∃ ids, (places body).length ≤ ids.length ∧ s'.Settled sector (grid sector body ids) := by
  cases a <;> simp only [built, List.not_mem_nil] at builds
  case turn pid c =>
    cases Site.step_cases taken
    case turn p p' listing serving turn =>
      have size := (List.getElem?_eq_some_iff.mp serving).1
      have answered : (s.procs.set pid p')[pid]? = some p' := List.getElem?_set_self size
      simp only [serving, answered] at builds
      split at builds
      swap
      · cases builds
      rename_i left right asked done
      obtain rfl := Option.some.inj asked
      obtain rfl := Option.some.inj done
      cases List.mem_singleton.mp builds
      have mine := laid.empty _ (List.mem_of_getElem? serving) (sector, body) List.mem_cons_self
      cases CatalogProc.builds turn
      case idle none => cases none
      case sector asks _ _ _ => cases asks
      case seats asks sectors saved all answered =>
        cases asks
        refine ⟨c.ids, all, ?_, seatsIn_of_insert mine.2 saved, ?_⟩
        · change sector ∈ listing.catalog.sectors.rows
          rw [sectors]
          exact mine.1
        · refine Pool.forall_set (A := fun _ => True) (fun _ _ => trivial) List.not_mem_nil ?_
          intro j q different at_j _ theirs
          exact laid.exclusive pid j _ q (Ne.symm different) serving at_j sector.id
            List.mem_cons_self theirs

/-! ## The order of a layout -/

/-- All the seats of a grid, row by row, and in each row by number. -/
def InPhysicalOrder (body : CreateSectorDto) (seats : List Seat) : Prop :=
  seats.map (fun seat => (seat.row, seat.number)) =
    (places body).map fun place => (rowLabel place.1, place.2)

/-- No seat comes before one of an earlier row. -/
def RowByRow (seats : List Seat) : Prop :=
  seats.Pairwise fun a b => ∀ i j, a.row = rowLabel i → b.row = rowLabel j → i ≤ j

theorem places_sorted : (places body).Pairwise fun x y => x.1 < y.1 ∨ (x.1 = y.1 ∧ x.2 < y.2) := by
  simp only [places, SProd.sprod, List.product, List.pairwise_flatMap, List.pairwise_map]
  constructor
  · intro row _
    exact (List.pairwise_lt_range' ..).imp fun smaller => .inr ⟨trivial, smaller⟩
  · refine List.pairwise_lt_range.imp fun smaller => ?_
    intro x first y second
    obtain ⟨_, -, rfl⟩ := List.mem_map.mp first
    obtain ⟨_, -, rfl⟩ := List.mem_map.mp second
    exact .inl smaller

theorem mem_places {place : Nat × Nat} :
    place ∈ places body ↔ place.1 < body.rows ∧ 1 ≤ place.2 ∧ place.2 < 1 + body.seatsPerRow := by
  obtain ⟨row, number⟩ := place
  rw [places, List.mem_product, List.mem_range, List.mem_range'_1]

/-- Up to Z a label is one letter, so the labels are in the order of the rows. -/
theorem rowLabel_lt (single : j < 26) (smaller : i < j) : rowLabel i < rowLabel j := by
  have one {index : Nat} (inside : index < 26) : (rowLabel index).length = 1 := by
    have front : (index + 1 - 1) / 26 = 0 := Nat.div_eq_of_lt inside
    rw [rowLabel_eq, List.length_map, Numerals.numeral_of_pos (Nat.succ_pos _), front,
      Numerals.numeral_zero]
    rfl
  have same : (rowLabel i).length = (rowLabel j).length :=
    (one (Nat.lt_trans smaller single)).trans (one single).symm
  exact (List.shortlex_iff_lex same).mp (before_of_lt smaller)

theorem seatBefore_iff {a b : Seat} :
    seatBefore a b = true ↔ a.row < b.row ∨ (a.row = b.row ∧ a.number ≤ b.number) := by
  simp [seatBefore]

theorem seatBefore_trans (a b c : Seat) (first : seatBefore a b = true)
    (second : seatBefore b c = true) : seatBefore a c = true := by
  rw [seatBefore_iff] at first second ⊢
  rcases first with row | ⟨row, number⟩ <;> rcases second with row' | ⟨row', number'⟩
  · exact .inl (List.lt_trans row row')
  · exact .inl (row' ▸ row)
  · exact .inl (row ▸ row')
  · exact .inr ⟨row.trans row', Nat.le_trans number number'⟩

theorem seatBefore_total (a b : Seat) : (seatBefore a b || seatBefore b a) = true := by
  rw [Bool.or_eq_true, seatBefore_iff, seatBefore_iff]
  rcases Std.lt_trichotomy a.row b.row with row | row | row
  · exact .inl (.inl row)
  · rcases Nat.le_total a.number b.number with number | number
    · exact .inl (.inr ⟨row, number⟩)
    · exact .inr (.inr ⟨row.symm, number⟩)
  · exact .inr (.inl row)

section Grid
variable (drawn : (places body).length ≤ ids.length)

/-- As long as the labels are single letters the seats of a grid are sorted as they are. -/
theorem sort_grid (few : body.rows ≤ 26) :
    (grid sector body ids).mergeSort seatBefore = grid sector body ids := by
  apply List.mergeSort_of_pairwise
  rw [grid_eq]
  have sorted : (places body).Pairwise fun x y =>
      rowLabel x.1 < rowLabel y.1 ∨ (rowLabel x.1 = rowLabel y.1 ∧ x.2 ≤ y.2) := by
    refine List.Pairwise.imp_of_mem ?_ places_sorted
    intro x y _ second before
    refine before.imp (rowLabel_lt ?_) fun ⟨row, number⟩ => ⟨congrArg rowLabel row, Nat.le_of_lt number⟩
    exact Nat.lt_of_lt_of_le (mem_places.mp second).1 few
  exact Lists.pairwise_zipWith sorted fun _ _ _ _ before => seatBefore_iff.mpr before

theorem rowByRow_grid : RowByRow (grid sector body ids) := by
  rw [grid_eq]
  refine Lists.pairwise_zipWith places_sorted fun x y _ _ before i j first second => ?_
  obtain rfl : x.1 = i := rowLabel_injective first
  obtain rfl : y.1 = j := rowLabel_injective second
  rcases before with smaller | ⟨same, -⟩
  · exact Nat.le_of_lt smaller
  · exact Nat.le_of_eq same

include drawn

theorem inPhysicalOrder_grid : InPhysicalOrder body (grid sector body ids) := by
  rw [InPhysicalOrder, grid_eq]
  exact Lists.map_zipWith_left (f := seatAt sector body)
    (g := fun seat => (seat.row, seat.number)) (fun _ _ => rfl) drawn

theorem exists_in_grid {place : Nat × Nat} (inside : place ∈ places body) :
    ∃ seat ∈ grid sector body ids, seat.row = rowLabel place.1 := by
  have listed : (rowLabel place.1, place.2) ∈
      (grid sector body ids).map fun seat => (seat.row, seat.number) := by
    rw [inPhysicalOrder_grid drawn]
    exact List.mem_map_of_mem inside
  obtain ⟨seat, member, same⟩ := List.mem_map.mp listed
  exact ⟨seat, member, congrArg Prod.fst same⟩

/-- The row after Z is listed before the row of B. -/
theorem not_rowByRow (many : 26 < body.rows) (wide : 0 < body.seatsPerRow) :
    ¬RowByRow ((grid sector body ids).mergeSort seatBefore) := by
  intro rows
  have after : (26, 1) ∈ places body :=
    mem_places.mpr ⟨many, Nat.le_refl 1, Nat.lt_add_of_pos_right wide⟩
  have second : (1, 1) ∈ places body :=
    mem_places.mpr ⟨Nat.lt_trans (by decide) many, Nat.le_refl 1, Nat.lt_add_of_pos_right wide⟩
  obtain ⟨x, inX, rowX⟩ : ∃ seat ∈ grid sector body ids, _ := exists_in_grid drawn after
  obtain ⟨y, inY, rowY⟩ : ∃ seat ∈ grid sector body ids, _ := exists_in_grid drawn second
  have sorted := List.pairwise_mergeSort seatBefore_trans seatBefore_total (grid sector body ids)
  have both := sorted.and rows
  have keeps := List.mergeSort_perm (grid sector body ids) seatBefore
  obtain ⟨m, inside, rfl⟩ := List.getElem_of_mem (keeps.mem_iff.mpr inX)
  obtain ⟨n, inside', rfl⟩ := List.getElem_of_mem (keeps.mem_iff.mpr inY)
  rcases Nat.lt_trichotomy m n with before | rfl | after
  · have later := (List.pairwise_iff_getElem.mp both m n inside inside' before).2 26 1 rowX rowY
    exact absurd later (by decide)
  · exact absurd (rowLabel_injective (rowX.symm.trans rowY)) (by decide)
  · have earlier := (List.pairwise_iff_getElem.mp both n m inside' inside after).1
    rw [seatBefore_iff, rowX, rowY] at earlier
    rcases earlier with row | ⟨row, -⟩
    · exact absurd row (by decide)
    · exact absurd row (by decide)

/-- The seats of a grid of any size are listed in their physical order exactly when there
are no more rows than letters. -/
theorem listed_in_order_iff (wide : 0 < body.seatsPerRow) :
    (InPhysicalOrder body ((grid sector body ids).mergeSort seatBefore) ∧
      RowByRow ((grid sector body ids).mergeSort seatBefore)) ↔ body.rows ≤ 26 := by
  constructor
  · rintro ⟨-, rows⟩
    by_contra many
    exact not_rowByRow drawn (Nat.lt_of_not_le many) wide rows
  · intro few
    rw [sort_grid few]
    exact ⟨inPhysicalOrder_grid drawn, rowByRow_grid⟩

end Grid

/-! ## Layouts of a site -/

/-- The body of a request for a sector that is being served. -/
def CatalogProc.asked : CatalogProc → List CreateSectorDto
  | .createSector (.findVenue _ body) | .createSector (.saveSector _ body)
  | .createSector (.saveSeats _ body) => [body]
  | _ => []

theorem asked_of_turn (turn : p.turn c listing = some (listing', p')) : p'.asked ⊆ p.asked := by
  cases p <;> simp only [CatalogProc.turn, afterOf_eq_some] at turn
  case done => cases turn
  case createSector state =>
    obtain ⟨after, turn, rfl⟩ := turn
    split at turn
    · cases turn
      exact List.nil_subset _
    cases state <;> simp only [CreateSector.turn] at turn
    case findVenue =>
      split at turn <;> cases turn
      · exact List.nil_subset _
      · exact List.Subset.refl _
    case saveSector =>
      split at turn
      · split at turn <;> cases turn
        · exact List.Subset.refl _
        · exact List.nil_subset _
      · cases turn
    case saveSeats =>
      split at turn
      · cases turn
      · split at turn <;> cases turn <;> exact List.nil_subset _
  all_goals
    obtain ⟨after, turn, rfl⟩ := turn
    cases after <;> exact List.nil_subset _

/-- Every sector that is asked for has a valid body. -/
theorem asked_accepted (run : Run (Site.step cfg) (.unbooked listing) ts s) :
    ∀ p ∈ s.procs, ∀ body ∈ p.asked, body.accepted = true := by
  refine run.invariant (P := fun s => ∀ p ∈ s.procs, ∀ body ∈ p.asked, body.accepted = true)
    (fun _ _ => (trivial : True)) (fun _ member => absurd member List.not_mem_nil) ?_
  intro s a s' valid _ taken
  cases Site.step_cases taken
  case booking => exact valid
  case request r accepted =>
    intro p member body asked
    rcases List.mem_append.mp member with old | new
    · exact valid p old body asked
    rw [List.mem_singleton.mp new] at asked
    cases r
    case createSector user venueId dto =>
      obtain rfl := List.mem_singleton.mp asked
      exact (Bool.and_eq_true_iff.mp accepted).2
    all_goals cases asked
  case turn pid c p p' listing serving turn =>
    refine Pool.forall_set valid ?_ fun _ _ _ _ => id
    exact fun body asked => valid p (List.mem_of_getElem? serving) body (asked_of_turn turn asked)
  case crash =>
    exact Pool.forall_set valid (fun _ asked => absurd asked List.not_mem_nil) fun _ _ _ _ => id

theorem asked_of_built {t : Transition Site Site.Action} (builds : (sector, body) ∈ built t) :
    ∃ p ∈ t.source.procs, body ∈ p.asked := by
  unfold built at builds
  split at builds
  swap
  · cases builds
  split at builds
  swap
  · cases builds
  rename_i serving _
  cases List.mem_singleton.mp builds
  exact ⟨_, List.mem_of_getElem? serving, List.mem_cons_self⟩

/-- The seats of one of several sectors. -/
theorem filter_seats {catalog : Catalog} {sectorIds : List Uuid} (inside : sector.id ∈ sectorIds) :
    (catalog.seats.rows.filter (·.sectorId ∈ sectorIds)).filter (·.sectorId = sector.id) =
      catalog.seatsIn sector := by
  rw [Catalog.seatsIn, List.filter_filter]
  apply List.filter_congr
  intro seat _
  rw [Bool.and_eq_left_iff_imp, decide_eq_true_eq, decide_eq_true_eq]
  exact fun own => own ▸ inside

/-- A layout lists the seats of a sector in the order of their labels and numbers. -/
theorem seats_of_layout {path : Text} {page : Layout} (shown : layout listing path = .ok page)
    (listed : (sector, seats) ∈ page.sectors) :
    seats = (listing.catalog.seatsIn sector).mergeSort seatBefore := by
  unfold layout at shown
  split at shown
  · cases shown
  split at shown <;> cases shown
  obtain ⟨other, member, same⟩ := List.mem_map.mp listed
  cases same
  exact congrArg (List.mergeSort · seatBefore) (filter_seats (List.mem_map_of_mem member))

/-- A stored venue has a layout, with all the sectors under its id as it is typed. -/
theorem exists_layout {path : Text} {venue : Venue} (stored : venue ∈ listing.venues.rows)
    (named : uuid? path = some venue.id) : ∃ page, layout listing path = .ok page ∧
      ∀ sector ∈ listing.catalog.sectors.rows, sector.venueId = path →
        (sector, (listing.catalog.seatsIn sector).mergeSort seatBefore) ∈ page.sectors := by
  have found := find?_venue stored
  refine ⟨_, by simp only [layout, named, found]; rfl, fun sector member here => ?_⟩
  refine List.mem_map.mpr ⟨sector, List.mem_filter.mpr ⟨member, decide_eq_true here⟩, ?_⟩
  rw [filter_seats (List.mem_map_of_mem (List.mem_filter.mpr ⟨member, decide_eq_true here⟩))]

/-- A sector that a run has built has from then on the seats of its grid. -/
theorem seatsIn_of_run (sectored : listing.catalog.Sectored)
    (run : Run (Site.step cfg) (.unbooked listing) ts s) (builds : (sector, body) ∈ ts.flatMap built) :
    ∃ ids, (places body).length ≤ ids.length ∧
      s.listing.catalog.seatsIn sector = grid sector body ids := by
  obtain ⟨t, member, saved⟩ := List.mem_flatMap.mp builds
  obtain ⟨before, after, rfl, first, taken, rest⟩ := run.split member
  obtain ⟨ids, drawn, settled⟩ :=
    settled_of_built ((Site.laid_unbooked sectored).run first) taken saved
  have settled := rest.invariant (P := fun s => s.Settled sector (grid sector body ids))
    (fun _ _ => (trivial : True)) settled fun _ _ _ settled _ taken => settled.next taken
  exact ⟨ids, drawn, settled.seats⟩

/-- It has a seat in each row. -/
theorem wide_of_run (run : Run (Site.step cfg) (.unbooked listing) ts s)
    (builds : (sector, body) ∈ ts.flatMap built) : 0 < body.seatsPerRow := by
  obtain ⟨t, member, saved⟩ := List.mem_flatMap.mp builds
  obtain ⟨before, after, rfl, first, -⟩ := run.split member
  obtain ⟨p, member, asked⟩ := asked_of_built saved
  have accepted := asked_accepted first p member body asked
  simp only [CreateSectorDto.accepted, Bool.and_eq_true, decide_eq_true_eq] at accepted
  exact accepted.2.1

/-- A sector that a run has built is from then on listed row by row, and in each row by
number, exactly when it has no more rows than there are letters; and so is a grid of any
number of rows. -/
theorem layout_in_order_iff {path : Text} {page : Layout} (sectored : listing.catalog.Sectored)
    (run : Run (Site.step cfg) (.unbooked listing) ts s) (builds : (sector, body) ∈ ts.flatMap built)
    (shown : layout s.listing path = .ok page) (listed : (sector, seats) ∈ page.sectors) :
    ((InPhysicalOrder body seats ∧ RowByRow seats) ↔ body.rows ≤ 26) ∧
    ∀ sector body ids, (places body).length ≤ ids.length → 0 < body.seatsPerRow →
      ((InPhysicalOrder body ((grid sector body ids).mergeSort seatBefore) ∧
        RowByRow ((grid sector body ids).mergeSort seatBefore)) ↔ body.rows ≤ 26) := by
  refine ⟨?_, fun sector body ids drawn wide => listed_in_order_iff drawn wide⟩
  obtain ⟨ids, drawn, saved⟩ := seatsIn_of_run sectored run builds
  rw [seats_of_layout shown listed, saved]
  exact listed_in_order_iff drawn (wide_of_run run builds)

private theorem oneRow_enabled : (exec (Site.step sampleConfig) .empty setUp).isSome = true := by
  decide +kernel

/-- The sector of the sample site has one row. -/
theorem layout_in_order_iff_one_row : ∃ seats : List Seat, ∃ page,
    layout (launched setUp oneRow_enabled).listing (flatText '8') = .ok page ∧
      (⟨flat 0xd, flatText '8', ['s']⟩, seats) ∈ page.sectors ∧
      InPhysicalOrder ⟨['s'], 1, 2, none⟩ seats := by
  have stored : (⟨flat 8, ['v', 'v'], ['c', 'c'], []⟩ : Venue) ∈
      (launched setUp oneRow_enabled).listing.venues.rows := by
    decide +kernel
  have named : uuid? (flatText '8') = some (flat 8) := by decide +kernel
  obtain ⟨page, shown, listed⟩ := exists_layout stored named
  have member := listed ⟨flat 0xd, flatText '8', ['s']⟩ (by decide +kernel) rfl
  have run : Run (Site.step sampleConfig)
      (.unbooked ⟨⟨.empty, .empty, .empty, .empty⟩, .empty, fun _ => .blank⟩) _ _ :=
    run_replay oneRow_enabled
  have builds : ((⟨flat 0xd, flatText '8', ['s']⟩, ⟨['s'], 1, 2, none⟩) : Sector × CreateSectorDto) ∈
      (transitions (Site.step sampleConfig) .empty setUp).flatMap built := by
    decide +kernel
  have both := (layout_in_order_iff (fun _ member => absurd member List.not_mem_nil) run builds shown
    member).1.mpr (by decide)
  exact ⟨_, page, shown, member, both.1⟩

/-- Ids to draw from. -/
def numberedText (n : Fin 32) : Text :=
  (flatText (Nat.digitChar (n / 16))).take 24 ++ List.replicate 12 (Nat.digitChar (n % 16))

private theorem numbered_valid : ∀ n : Fin 32, uuidLayout (numberedText n) = true ∧
    lower (numberedText n) = numberedText n := by
  decide +kernel

def numbered (n : Fin 32) : Uuid := ⟨numberedText n, (numbered_valid n).1, (numbered_valid n).2⟩

/-- A sector of 27 rows, one seat each. -/
def manyRows : List Site.Action :=
  setUp.take 2 ++ [.request (.createSector organizer (flatText '8') ⟨['s'], 27, 1, none⟩), .turn 1 {},
    .turn 1 { ids := [flat 0xd] }, .turn 1 { ids := List.ofFn numbered }]

private theorem manyRows_enabled :
    (exec (Site.step sampleConfig) .empty manyRows).isSome = true := by
  decide +kernel

/-- Row AA is listed before row B. -/
theorem rows_out_of_order :
    ¬ ∀ (cfg : Config) (listing : Listing) (ts : List (Transition Site Site.Action)) (s : Site)
      (path : Text) (page : Layout) (sector : Sector) (body : CreateSectorDto) (seats : List Seat),
      listing.catalog.Sectored → Run (Site.step cfg) (.unbooked listing) ts s →
      (sector, body) ∈ ts.flatMap built → layout s.listing path = .ok page →
      (sector, seats) ∈ page.sectors → RowByRow seats := by
  intro ordered
  have sectored : Catalog.Sectored ⟨.empty, .empty, .empty, .empty⟩ :=
    fun _ member => absurd member List.not_mem_nil
  have run : Run (Site.step sampleConfig)
      (.unbooked ⟨⟨.empty, .empty, .empty, .empty⟩, .empty, fun _ => .blank⟩) _ _ :=
    run_replay manyRows_enabled
  have named : uuid? (flatText '8') = some (flat 8) := by decide +kernel
  obtain ⟨stored, member, builds⟩ :
      (⟨flat 8, ['v', 'v'], ['c', 'c'], []⟩ : Venue) ∈
        (launched manyRows manyRows_enabled).listing.venues.rows ∧
      (⟨flat 0xd, flatText '8', ['s']⟩ : Sector) ∈
        (launched manyRows manyRows_enabled).listing.catalog.sectors.rows ∧
      ((⟨flat 0xd, flatText '8', ['s']⟩, ⟨['s'], 27, 1, none⟩) : Sector × CreateSectorDto) ∈
        (transitions (Site.step sampleConfig) .empty manyRows).flatMap built := by
    decide +kernel
  obtain ⟨page, shown, listed⟩ := exists_layout stored named
  have rows := ordered _ _ _ _ _ _ _ _ _ sectored run builds shown (listed _ member rfl)
  obtain ⟨ids, drawn, saved⟩ := seatsIn_of_run sectored run builds
  rw [saved] at rows
  exact not_rowByRow drawn (by decide) (by decide) rows

end KiTicket

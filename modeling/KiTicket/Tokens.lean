import KiTicket.Queue

/-! Admission tokens. A token is good as long as the row it was written to keeps it, so
what matters is who writes an entry after it was admitted: only an admit that has read
it before. -/
namespace KiTicket
open Runs WaitingRoom

variable {cfg : Config} {catalog : Catalog} {w w' : World} {a : Action}
  {ts : List (Transition World Action)} {t : Transition World Action} {drawn : Text → Prop}
  {entry row : WaitingRoomEntry} {queued : List WaitingRoomEntry}

/-- The entry was in the answer of an admit, or of a status read at some moment. -/
def Shown (start : World) (ts : List (Transition World Action)) (entry : WaitingRoomEntry) : Prop :=
  entry ∈ granted ts ∨ ∃ s user id, Visits start ts s ∧ status s.db user id = .ok entry

/-- The token of the entry lets its user pass until it expires. -/
def Passes (cfg : Config) (w : World) (entry : WaitingRoomEntry) : Prop :=
  ∀ token expiresAt now, entry.admissionToken = some token →
    entry.tokenExpiresAt = some expiresAt → now < expiresAt →
      assertAdmission cfg w.db.entries.rows now entry.eventId entry.userId (some token) = .ok ()

/-- How many entries a step moves from QUEUED to ADMITTED. -/
def moved (t : Transition World Action) : Nat :=
  t.source.db.entries.rows.countP fun row =>
    row.state = .queued ∧ ∃ row' ∈ t.target.db.entries.rows, row'.id = row.id ∧ row'.state = .admitted

/-- What an admit writes in the step is still QUEUED. -/
def FirstGrant (t : Transition World Action) : Prop :=
  ∀ entry ∈ turned Proc.grants t, ∀ row ∈ t.source.db.entries.rows, row.id = entry.id →
    row.state = .queued

instance : Decidable (FirstGrant t) := by
  unfold FirstGrant
  infer_instance

/-! ## Counting -/

/-- Where no row is rewritten nobody is moved. -/
theorem moved_eq_zero (kept : w.db.entries.rows ⊆ w'.db.entries.rows) : moved ⟨w, a, w'⟩ = 0 := by
  rw [moved, List.countP_eq_zero]
  intro row stored
  rw [decide_eq_true_eq]
  rintro ⟨queued, row', stored', same, admitted⟩
  rw [eq_of_id stored' (kept stored) same, queued] at admitted
  cases admitted

/-- An admit moves what it finds QUEUED of its batch. -/
theorem moved_of_admit (batch : (Proc.admitUsers (.save queued)).Batch cfg drawn w.db.entries.rows)
    (rows : w'.db.entries.rows = w.db.entries.rows.map (admitRow queued)) :
    moved ⟨w, a, w'⟩ = (w.db.entries.rows.filter fun row =>
      row.id ∈ queued.map WaitingRoomEntry.id).countP (·.state = .queued) := by
  rw [moved, List.countP_filter]
  apply List.countP_congr
  intro row stored
  rw [Bool.and_eq_true, decide_eq_true_eq, decide_eq_true_eq, decide_eq_true_eq]
  refine and_congr_right fun queued' => ?_
  have written : admitRow queued row ∈ w'.db.entries.rows := rows ▸ List.mem_map_of_mem stored
  constructor
  · rintro ⟨row', stored', same, admitted⟩
    rcases admitRow_of_batch batch stored with ⟨-, unchanged⟩ | ⟨chosen, -⟩
    · rw [unchanged] at written
      rw [eq_of_id stored' written same, queued'] at admitted
      cases admitted
    · rw [← (admitRow_named queued row).1]
      exact List.mem_map_of_mem chosen
  · intro chosen
    rcases admitRow_of_batch batch stored with ⟨outside, -⟩ | ⟨-, _, _, -, same⟩
    · exact absurd chosen outside
    · exact ⟨_, written, (admitRow_named queued row).1, by rw [same]⟩

/-- An admit answers with no fewer entries than it moves, and with as many exactly when
all of them are still QUEUED. -/
theorem moved_le (waiting : Waiting cfg drawn w) (taken : step cfg w a = some w') :
    moved ⟨w, a, w'⟩ ≤ (turned Proc.grants ⟨w, a, w'⟩).length ∧
      ((turned Proc.grants ⟨w, a, w'⟩).length = moved ⟨w, a, w'⟩ ↔ FirstGrant ⟨w, a, w'⟩) := by
  unfold FirstGrant
  cases entries_cases taken
  case same entries _ grants =>
    rw [grants, moved_eq_zero (by rw [entries]; exact List.Subset.refl _)]
    exact ⟨Nat.le_refl 0, iff_of_true rfl fun _ member => absurd member List.not_mem_nil⟩
  case join rows _ grants =>
    rw [grants, moved_eq_zero (by rw [rows]; exact List.subset_append_left _ _)]
    exact ⟨Nat.le_refl 0, iff_of_true rfl fun _ member => absurd member List.not_mem_nil⟩
  case admits pid c queued serving rows _ grants =>
    have batch := waiting.batches _ (List.mem_of_getElem? serving)
    have size := Lists.length_filter_key (entry_ids_nodup w.db) batch.1 fun id member => by
      obtain ⟨entry, chosen, rfl⟩ := List.mem_map.mp member
      obtain ⟨row, stored, -, _, _, -, same⟩ := exists_admitRow batch chosen
      exact List.mem_map.mpr ⟨row, stored, by rw [same]⟩
    rw [List.length_map] at size
    rw [grants, moved_of_admit batch rows, ← size]
    refine ⟨List.countP_le_length, eq_comm.trans (List.countP_eq_length.trans ?_)⟩
    simp only [List.mem_filter, decide_eq_true_eq]
    constructor
    · intro all entry chosen row stored same
      exact all row ⟨stored, same ▸ List.mem_map_of_mem chosen⟩
    · rintro all row ⟨stored, named⟩
      obtain ⟨entry, chosen, same⟩ := List.mem_map.mp named
      exact all entry chosen row stored same.symm

theorem moved_le_granted (run : Run (step cfg) (initial catalog) ts w) :
    (ts.map moved).sum ≤ (granted ts).length ∧
      ((granted ts).length = (ts.map moved).sum ↔ ∀ t ∈ ts, FirstGrant t) := by
  refine run.history (P := fun ts _ => (ts.map moved).sum ≤ (granted ts).length ∧
    ((granted ts).length = (ts.map moved).sum ↔ ∀ t ∈ ts, FirstGrant t)) within_any ?_ ?_
  · exact ⟨Nat.le_refl 0, iff_of_true rfl fun _ member => absurd member List.not_mem_nil⟩
  rintro ts w a w' run - ⟨most, exact'⟩ - taken
  obtain ⟨most', exact''⟩ := moved_le (waiting_any run) taken
  rw [granted_concat, List.length_append, List.map_append, List.sum_append, List.map_singleton,
    List.sum_singleton]
  refine ⟨Nat.add_le_add most most', ?_⟩
  simp only [List.mem_append, List.mem_singleton]
  constructor
  · intro equal t member
    rcases member with old | rfl
    · exact exact'.mp (by omega) t old
    · exact exact''.mp (by omega)
  · intro each
    rw [exact'.mpr fun t member => each t (.inl member), exact''.mpr (each _ (.inr rfl))]

/-! ## Rows that keep their tokens -/

/-- A step that admits only what is QUEUED rewrites no row that has a token. -/
theorem FirstGrant.kept (first : FirstGrant ⟨w, a, w'⟩) (waiting : Waiting cfg drawn w)
    (taken : step cfg w a = some w') (stored : row ∈ w.db.entries.rows)
    (token : row.admissionToken.isSome = true) : row ∈ w'.db.entries.rows := by
  cases entries_cases taken
  case same entries _ _ =>
    rwa [entries]
  case join rows _ _ =>
    rw [rows]
    exact List.mem_append_left _ stored
  case admits pid c queued serving rows _ grants =>
    have batch := waiting.batches _ (List.mem_of_getElem? serving)
    rw [rows]
    rcases admitRow_of_batch batch stored with ⟨-, same⟩ | ⟨chosen, -⟩
    · exact same ▸ List.mem_map_of_mem stored
    · have state := first _ (grants ▸ chosen) row stored (admitRow_named queued row).1.symm
      rcases waiting.rows row stored with ⟨-, -, none, -⟩ | ⟨admitted, -⟩
      · rw [none] at token
        cases token
      · cases state.symm.trans admitted

theorem mem_of_status {db : Db} {user : AuthenticatedUser} {id : Text}
    (read : status db user id = .ok entry) : entry ∈ db.entries.rows := by
  unfold status at read
  split at read
  · cases read
  split at read
  · cases read
  rename_i found
  split at read <;> cases read
  exact List.mem_of_find?_eq_some found

/-- What is shown first in a step is a row afterwards. -/
theorem shown_cases (waiting : Waiting cfg drawn w) (taken : step cfg w a = some w')
    (shown : Shown (initial catalog) (ts ++ [⟨w, a, w'⟩]) entry) :
    Shown (initial catalog) ts entry ∨ entry ∈ w'.db.entries.rows := by
  rcases shown with member | ⟨s, user, id, visits, read⟩
  · rw [granted_concat, List.mem_append] at member
    rcases member with old | new
    · exact .inl (.inl old)
    · right
      cases entries_cases taken
      case same grants =>
        rw [grants] at new
        cases new
      case join grants =>
        rw [grants] at new
        cases new
      case admits serving rows _ grants =>
        rw [grants] at new
        have batch := waiting.batches _ (List.mem_of_getElem? serving)
        obtain ⟨row, stored, rfl, -⟩ := exists_admitRow batch new
        exact rows ▸ List.mem_map_of_mem stored
  · rcases visits with rfl | ⟨t, member, rfl⟩
    · exact .inl (.inr ⟨_, user, id, .inl rfl, read⟩)
    rcases List.mem_append.mp member with old | new
    · exact .inl (.inr ⟨_, user, id, .inr ⟨t, old, rfl⟩, read⟩)
    · rw [List.mem_singleton.mp new] at read
      exact .inr (mem_of_status read)

/-- What a run has shown with a token is still there. -/
theorem shown_of_run (run : Run (step cfg) (initial catalog) ts w)
    (first : ∀ t ∈ ts, FirstGrant t) (token : entry.admissionToken.isSome = true) :
    Shown (initial catalog) ts entry → entry ∈ w.db.entries.rows := by
  refine run.history (P := fun ts w => Shown (initial catalog) ts entry → entry ∈ w.db.entries.rows)
    first ?_ ?_
  · rintro (member | ⟨s, user, id, rfl | ⟨t, member, -⟩, read⟩)
    · cases member
    · exact mem_of_status read
    · cases member
  · rintro ts w a w' run - ih first taken shown
    have waiting := waiting_any run
    rcases shown_cases waiting taken shown with old | new
    · exact first.kept waiting taken (ih old) token
    · exact new

/-- A row passes the check with its token until it expires. -/
theorem passes_of_mem (waiting : Waiting cfg (· ≠ []) w) (stored : row ∈ w.db.entries.rows) :
    Passes cfg w row := by
  intro token expiresAt now mine expires unexpired
  rcases waiting.rows row stored with ⟨-, -, none, -⟩ | ⟨admitted, token', _, random, mine', -⟩
  · cases none.symm.trans mine
  cases mine.symm.trans mine'
  unfold assertAdmission
  split
  · rfl
  have found : w.db.entries.rows.find? (fun entry => entry.eventId = row.eventId ∧
      entry.userId = row.userId ∧ entry.admissionToken = some token ∧ entry.state = .admitted) =
        some row := by
    refine Table.find?_eq_some_of_mem stored (by simp [mine, admitted]) fun x y left right => ?_
    simp only [decide_eq_true_eq] at left right
    simp [clash, left.2.2.1, right.2.2.1]
  split
  · rename_i absent
    cases absent
  · rename_i empty
    cases empty
    exact absurd rfl random
  · rename_i token' _ same
    cases same
    simp only [found, Option.bind_some, expires]
    rw [if_neg (Nat.not_le.mpr unexpired)]

/-- Where no random token is empty: every token an admit or a status read has shown lets
its user pass until it expires, and the admits answer with as many entries as were
moved, exactly when every admit finds QUEUED what it writes. -/
theorem tokens_valid_iff (run : Run (step cfg) (initial catalog) ts w)
    (random : Within (Action.Draws (· ≠ [])) ts) :
    ((∀ entry, Shown (initial catalog) ts entry → Passes cfg w entry) ∧
      (granted ts).length = (ts.map moved).sum) ↔ ∀ t ∈ ts, FirstGrant t := by
  constructor
  · rintro ⟨-, equal⟩
    exact (moved_le_granted run).2.mp equal
  · intro first
    refine ⟨fun entry shown => ?_, (moved_le_granted run).2.mpr first⟩
    intro token expiresAt now mine
    have stored := shown_of_run run first (by rw [mine]; rfl) shown
    exact passes_of_mem (waiting_of_run run random) stored token expiresAt now mine

theorem tokens_valid_iff_joined :
    (∀ entry, Shown (initial sampleCatalog)
      (transitions (step closedConfig) (initial sampleCatalog) joinedInOrder) entry →
        Passes closedConfig (replay _ _ _ joinedInOrder_enabled) entry) ∧
    (granted (transitions (step closedConfig) (initial sampleCatalog) joinedInOrder)).length =
      ((transitions (step closedConfig) (initial sampleCatalog) joinedInOrder).map moved).sum :=
  (tokens_valid_iff (run_replay joinedInOrder_enabled)
    (within_replay joinedInOrder_enabled (by decide +kernel))).mpr (by decide +kernel)

/-- Two administrators admit the same customer at the same time, both before either has
written. -/
def admittedTwice : List Action :=
  .request (.join customer (flatText 'e')) :: joinTurns 0 (flat 5) ['x'] ++
    (admitFirst 1 ['y']).take 2 ++ admitFirst 2 queueToken ++ (admitFirst 1 ['y']).drop 2

private theorem admittedTwice_enabled :
    (exec (step closedConfig) (initial sampleCatalog) admittedTwice).isSome = true := by
  decide +kernel

private theorem admittedTwice_random : Within (Action.Draws (· ≠ []))
    (transitions (step closedConfig) (initial sampleCatalog) admittedTwice) :=
  within_replay admittedTwice_enabled (by decide +kernel)

private def overwritten : WaitingRoomEntry :=
  ⟨flat 5, flatText 'e', ['u'], 1, .admitted, some queueToken, some 900000, 0⟩

/-- The token of the first answer is dead, and one customer is counted twice. -/
theorem token_overwritten :
    (¬ ∀ (cfg : Config) (catalog : Catalog) (ts : List (Transition World Action)) (w : World),
      Run (step cfg) (initial catalog) ts w → Within (Action.Draws (· ≠ [])) ts →
      ∀ entry, Shown (initial catalog) ts entry → Passes cfg w entry) ∧
    ¬ ∀ (cfg : Config) (catalog : Catalog) (ts : List (Transition World Action)) (w : World),
      Run (step cfg) (initial catalog) ts w → Within (Action.Draws (· ≠ [])) ts →
      (granted ts).length = (ts.map moved).sum := by
  refine ⟨fun valid => ?_, fun counted => ?_⟩
  · have shown : Shown (initial sampleCatalog)
        (transitions (step closedConfig) (initial sampleCatalog) admittedTwice) overwritten :=
      .inl (by decide +kernel)
    have passes := valid _ _ _ _ (run_replay admittedTwice_enabled) admittedTwice_random _ shown
      queueToken 900000 0 rfl rfl (by decide)
    revert passes
    decide +kernel
  · have once := counted _ _ _ _ (run_replay admittedTwice_enabled) admittedTwice_random
    revert once
    decide +kernel

end KiTicket

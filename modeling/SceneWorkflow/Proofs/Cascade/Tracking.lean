import SceneWorkflow.Proofs.Cascade.Sound

/-!
# Jobs that keep track

A job that is queued describes its tile as the store has it, and goes on doing so
while other tiles start or fail. Only its reference may be left behind: the tile it
names may fail later in the same unit of work.
-/
namespace SceneWorkflow
namespace Store
variable {s₀ s s' : Store} {f t : Tile} {job : TileJob} {message : Option String}
  {late : Prop} {before doomed rest : List Int} {p : Tile → Bool}

/-- The job describes a tile that has started as the store has it. Where that is allowed for, its
reference may name a tile that has been given up since. -/
def Tracks (late : Prop) (s₀ s : Store) (job : TileJob) : Prop :=
  ∃ t, s.tile? job.tile.id = some t ∧ t.status = .pending ∧ s.tileRef? t.id = some job.tile ∧
    job.previous = t.previous.bind s.tileRef? ∧
    (job.reference = t.reference.bind s.tileRef? ∨
      late ∧ GivenUp s (job.reference.map (·.id)) ∧ ¬ GivenUp s₀ (job.reference.map (·.id)))

/-- Jobs have been added to the outbox, and those of tiles keep track. -/
def Appends (late : Prop) (s₀ s : Store) : Prop :=
  ∃ js, s.outbox = s₀.outbox ++ js ∧ ∀ j ∈ js, j.topic = .tileJobs →
    ∃ job, j.payload = job.toJson.print ∧ Tracks late s₀ s job

theorem tileRef?_id {id : Int} {r : TileRef} (h : s.tileRef? id = some r) : r.id = id := by
  obtain ⟨t, ht, hr⟩ := Option.bind_eq_some_iff.1 h
  obtain ⟨x, -, rfl⟩ := Option.map_eq_some_iff.1 hr
  exact tile?_id ht

theorem Schema.tileRef?_isSome (hs : s.Schema) {id : Int} (h : (s.tile? id).isSome) :
    (s.tileRef? id).isSome := by
  obtain ⟨t, ht⟩ := Option.isSome_iff_exists.1 h
  obtain ⟨x, hx⟩ := Option.isSome_iff_exists.1 (hs.scene_exists t (mem_of_tile? ht))
  rw [tileRef?_of_tile? ht hx]
  rfl

/-- What a link names is described, and is absent only if the link is. -/
theorem Schema.map_tileRef? (hs : s.Schema) {link : Option Int} (h : s.hasLinked link) :
    link.map s.tileRef? = (link.bind s.tileRef?).map some := by
  cases link with
  | none => rfl
  | some id =>
    obtain ⟨r, hr⟩ := Option.isSome_iff_exists.1 (hs.tileRef?_isSome h)
    simp [hr]

theorem Schema.map_id_tileRef? (hs : s.Schema) {link : Option Int} (h : s.hasLinked link) :
    (link.bind s.tileRef?).map (·.id) = link := by
  cases link with
  | none => rfl
  | some id =>
    obtain ⟨r, hr⟩ := Option.isSome_iff_exists.1 (hs.tileRef?_isSome h)
    simp [hr, tileRef?_id hr]

/-! ### Keeping track -/

/-- The job of a tile that has started keeps track of it. -/
theorem tracks_jobOf? (ht : s.tile? t.id = some t) (hpending : t.status = .pending)
    (hjob : s.jobOf? t = some job) : Tracks late s₀ s job := by
  obtain ⟨x, hx, rfl⟩ := Option.map_eq_some_iff.1 hjob
  exact ⟨t, ht, hpending, tileRef?_of_tile? ht hx, rfl, .inl rfl⟩

/-- A change that describes tiles as before, keeps what has been given up, and keeps the status and
the links of tiles that have started keeps track. A reference may be left behind. -/
theorem Tracks.step (h : Tracks late s₀ s job) (href : ∀ id, s'.tileRef? id = s.tileRef? id)
    (hgiven : ∀ link, GivenUp s link → GivenUp s' link)
    (hlinked : ∀ t ∈ s.tiles, (t.reference.bind s.tileRef?).map (·.id) = t.reference)
    (hrow : ∀ t ∈ s.tiles, t.status = .pending → ∃ t', s'.tile? t.id = some t' ∧
      t'.status = .pending ∧ t'.previous = t.previous ∧
      (t'.reference = t.reference ∨ late ∧ GivenUp s' t.reference ∧ ¬ GivenUp s₀ t.reference)) :
    Tracks late s₀ s' job := by
  have href' : s'.tileRef? = s.tileRef? := funext href
  obtain ⟨t, ht, hpending, hself, hprevious, hreference⟩ := h
  have hmem := mem_of_tile? ht
  have hid := tile?_id ht
  obtain ⟨t', ht', hpending', hprevious', hreference'⟩ := hrow t hmem hpending
  refine ⟨t', hid ▸ ht', hpending', ?_, ?_, ?_⟩
  · rw [tile?_id ht', hid, href, ← hid]
    exact hself
  · rw [hprevious', href']
    exact hprevious
  · rcases hreference with hsame | ⟨hlate, hup, hnot⟩
    · rcases hreference' with hsame' | ⟨hlate, hup, hnot⟩
      · rw [hsame', href']
        exact .inl hsame
      · rw [hsame, hlinked t hmem]
        exact .inr ⟨hlate, hup, hnot⟩
    · exact .inr ⟨hlate, hgiven _ hup, hnot⟩

theorem Schema.reference_described (hs : s.Schema) :
    ∀ t ∈ s.tiles, (t.reference.bind s.tileRef?).map (·.id) = t.reference :=
  fun t ht => hs.map_id_tileRef? (hs.reference_exists t ht)

theorem Tracks.of_sameRows (h : Tracks late s₀ s job) (hsame : SameRows s s') :
    Tracks late s₀ s' job := by
  have href : s'.tileRef? = s.tileRef? := funext hsame.tileRef?
  obtain ⟨t, ht, hpending, hself, hprevious, hreference⟩ := h
  refine ⟨t, ?_, hpending, ?_, ?_, ?_⟩
  · rwa [hsame.tile?]
  · rwa [href]
  · rwa [href]
  · rw [href]
    refine hreference.imp_right fun ⟨hlate, hup, hnot⟩ => ⟨hlate, ?_, hnot⟩
    exact (Handed.of_sameRows hsame []).givenUp hup

/-- Rewriting tiles does not change how they are described, if id, name, scene and attributes
stay. -/
theorem tileRef?_mapTiles {g : Tile → Tile} (hid : ∀ t, (g t).id = t.id)
    (hg : ∀ t (x : SceneRef), (g t).refIn x = t.refIn x) (hscene : ∀ t, (g t).scene = t.scene)
    (s : Store) (id : Int) : (s.mapTiles g).tileRef? id = s.tileRef? id := by
  rw [tileRef?, tile?_mapTiles hid, tileRef?]
  cases s.tile? id with
  | none => rfl
  | some t => simp [hg, hscene]

/-- Starting new tiles keeps track of those that have started. -/
theorem Tracks.start (h : Tracks late s₀ s job) (hs : s.Schema)
    (hnew : ∀ t ∈ s.tiles, p t → t.status = .new) : Tracks late s₀ (s.start p) job := by
  have hhanded : Handed [] [] s (s.start p) := .start hnew []
  refine h.step ?_ (fun _ => hhanded.givenUp) hs.reference_described ?_
  · intro id
    rw [start_eq]
    exact tileRef?_mapTiles (g := fun t => { t with status := if p t then .pending else t.status })
      (fun _ => rfl) (fun _ _ => rfl) (fun _ => rfl) s id
  · intro t ht hpending
    refine ⟨t, ?_, hpending, rfl, .inl rfl⟩
    rw [tile?_start, hs.tile?_of_mem ht]
    have hstays : p t = false := by
      apply Bool.eq_false_iff.2
      intro hp
      rw [hnew t ht hp] at hpending
      cases hpending
    simp [hstays]

/-- The failure of a doomed tile keeps track of the tiles that have started, but may leave their
references behind. -/
theorem Tracks.failTile (h : Tracks late s₀ s job) (hlate : late) (hs : Sound doomed s)
    (hf : s.tile? f.id = some f) (hd : f.id ∈ doomed) (h₀ : Handed before doomed s₀ s)
    (hrest : ∀ id ∈ rest, id ∈ doomed) (message : Option String) :
    Tracks late s₀ (s.failTile f message) job := by
  have hmem := mem_of_tile? hf
  have hnew : f.status = .new := ((hs.fits f hmem).of_doomed hd).1
  have hdone : f.status ≠ .done := by simp [hnew]
  have hhanded : Handed doomed rest s (s.failTile f message) :=
    .failTile hs.toLifecycle hs.toSchema hf hdone hd hrest hrest
  refine h.step ?_ (fun _ => hhanded.givenUp) hs.toSchema.reference_described ?_
  · exact tileRef?_mapTiles (g := s.failRow f message) (fun _ => rfl) (fun _ _ => rfl)
      (fun _ => rfl) s
  · intro t ht hpending
    have hne : t.id ≠ f.id := by
      intro hid
      rw [hs.toOrdered.eq_of_id ht hmem hid, hnew] at hpending
      cases hpending
    have hfollows : t.previous ≠ some f.id := by
      intro hp
      rw [hs.toLifecycle.follower_new hf hdone ht hp] at hpending
      cases hpending
    have hstays : s.frees f t = false :=
      Bool.eq_false_iff.2 fun hfrees => hfollows (frees_eq_true.1 hfrees).1
    have hrow : (s.failTile f message).tile? t.id = some (s.failRow f message t) := by
      rw [tile?_failTile, hs.toOrdered.tile?_of_mem ht]
      rfl
    refine ⟨s.failRow f message t, hrow, ?_, ?_, ?_⟩
    · rw [failRow_status, hstays, if_neg Bool.false_ne_true, if_neg hne]
      exact hpending
    · rw [failRow_previous, if_neg hne, if_neg hfollows]
    · obtain ⟨t', ht', hsame | ⟨hup, -⟩⟩ := hhanded.row t.id t (hs.toOrdered.tile?_of_mem ht)
      · rw [hrow] at ht'
        cases ht'
        exact .inl hsame
      · have hlive : t.status ≠ .failed := by simp [hpending]
        have htd : t.id ∉ doomed := by
          intro hd
          rw [((hs.fits t ht).of_doomed hd).1] at hpending
          cases hpending
        exact .inr ⟨hlate, hup, fun hup₀ => hs.not_givenUp ht hlive htd (h₀.givenUp hup₀)⟩

/-! ### Adding to the outbox -/

theorem appends_of_outbox (h : s.outbox = s₀.outbox) : Appends late s₀ s := by
  refine ⟨[], ?_, fun _ hj => nomatch hj⟩
  rw [h, List.append_nil]

theorem Appends.step (h : Appends late s₀ s) (hout : s'.outbox = s.outbox)
    (hstep : ∀ job, Tracks late s₀ s job → Tracks late s₀ s' job) : Appends late s₀ s' := by
  obtain ⟨js, hjs, hall⟩ := h
  refine ⟨js, hout.trans hjs, ?_⟩
  intro j hj htopic
  obtain ⟨job, hpayload, htracks⟩ := hall j hj htopic
  exact ⟨job, hpayload, hstep job htracks⟩

theorem Appends.append (h : Appends late s₀ s) (hsame : SameRows s s') {js : List QueuedJob}
    (hout : s'.outbox = s.outbox ++ js)
    (hjs : ∀ j ∈ js, j.topic = .tileJobs → ∃ job, j.payload = job.toJson.print ∧
      Tracks late s₀ s job) : Appends late s₀ s' := by
  obtain ⟨js₀, hjs₀, hall⟩ := h
  refine ⟨js₀ ++ js, ?_, ?_⟩
  · rw [hout, hjs₀, List.append_assoc]
  · intro j hj htopic
    have hjob : ∃ job, j.payload = job.toJson.print ∧ Tracks late s₀ s job :=
      (List.mem_append.1 hj).elim (fun hj => hall j hj htopic) fun hj => hjs j hj htopic
    obtain ⟨job, hpayload, htracks⟩ := hjob
    exact ⟨job, hpayload, htracks.of_sameRows hsame⟩

theorem Appends.announce (h : Appends late s₀ s) {ts : List Tile}
    (hts : ∀ t ∈ ts, ∃ u, s.tile? u.id = some u ∧ u.status = .pending ∧ s.jobOf? t = s.jobOf? u) :
    Appends late s₀ (s.announce ts) := by
  obtain ⟨js, hout, hjs⟩ := outbox_announce s ts
  apply h.append (sameRows_announce s ts) hout
  intro j hj _
  obtain ⟨t, ht, job, hjob, -, hpayload⟩ := hjs j hj
  obtain ⟨u, hu, hpending, hsame⟩ := hts t ht
  exact ⟨job, hpayload, tracks_jobOf? hu hpending (hsame ▸ hjob)⟩

theorem Appends.queueScene (h : Appends late s₀ s) (payload : String) :
    Appends late s₀ (s.enqueueJob .sceneJobs payload) := by
  have hout : (s.enqueueJob .sceneJobs payload).outbox =
      s.outbox ++ [⟨s.lastJob + 1, .sceneJobs, payload⟩] := rfl
  apply h.append (sameRows_enqueueJob s _ _) hout
  intro j hj htopic
  rw [List.mem_singleton.1 hj] at htopic
  cases htopic

end Store
end SceneWorkflow

import FramedLink.Proofs.Reception.Noise

/-!
# How far damage reaches

Octets before some frames may hold anything, even headers that announce a packet reaching into
these frames. A scan is misled by them no further than such a packet can be long: as soon as it
looks at an octet inside a frame, or behind a frame, it finds the later frames, provided that a
start marker stands nowhere but at the beginning of each of them.

Each finding takes away at most the longest packet that a receiver takes
(`Scan.exists_next?`), so that frames which begin at least so far behind the damage are all found
(`Scan.suffix_frames_scan`).
-/

namespace FramedLink

namespace Parcel

/-- A parcel with a start marker nowhere but at its beginning. -/
structure Marked (limit : Nat) (mode : Integrity) (parcel : Parcel) : Prop where
  sent : parcel.Sent limit mode
  once : startMarker ∉ parcel.encoded.tail

end Parcel

namespace Scan

variable {limit : Nat} {mode : Integrity} {octets noise : Bytes}
variable {parcel : Parcel} {parcels earlier later : List Parcel}

/-- As many octets as the longest packet has tell something, and no more of them than such a packet
are taken away at once. -/
theorem exists_next? (h : limit + frameOverhead ≤ octets.length) :
    ∃ finding count, next? limit mode octets = some (finding, octets.drop count) ∧
      0 < count ∧ count ≤ limit + frameOverhead := by
  have hheader : headerSize ≤ limit + frameOverhead := by
    unfold frameOverhead
    omega
  have hskipped := skipped_bounds octets
  have hskip : 1 + ((octets.take headerSize).tail.takeWhile (· != startMarker)).length ≤
      limit + frameOverhead := hskipped.2.trans hheader
  rw [next?_eq (hheader.trans h)]
  cases Header.decode octets with
  | error => exact ⟨_, _, rfl, hskipped.1, hskip⟩
  | ok header =>
    dsimp only
    by_cases hlimit : limit < header.payloadSize
    · rw [if_pos hlimit]
      exact ⟨_, _, rfl, hskipped.1, hskip⟩
    · have hsize : header.frameSize ≤ limit + frameOverhead :=
        Nat.add_le_add_right (Nat.not_lt.mp hlimit) _
      rw [if_neg hlimit, if_neg (Nat.not_lt.mpr (hsize.trans h))]
      exact ⟨_, _, rfl, Nat.succ_pos _, hsize⟩

/-- What is found later is found after the first finding. -/
theorem suffix_frames_of_next? {finding : Finding} {rest : Bytes}
    (h : next? limit mode octets = some (finding, rest)) :
    (scan limit mode rest).frames <:+ (scan limit mode octets).frames := by
  rw [scan_of_next?_some h]
  exact (List.suffix_cons finding _).filterMap Finding.frame?

/-- What is left of a marked parcel behind its first octet holds no marker. -/
theorem not_mem_drop (h : parcel.Marked limit mode) {count : Nat} (hcount : 0 < count) :
    startMarker ∉ parcel.encoded.drop count := by
  obtain ⟨before, rfl⟩ := Nat.exists_eq_add_of_lt hcount
  rw [Nat.zero_add, ← List.drop_tail]
  exact fun hmem ↦ h.once (List.mem_of_mem_drop hmem)

theorem begins_flatMap (hsent : ∀ parcel ∈ parcels, parcel.Sent limit mode)
    (hsome : parcels ≠ []) :
    (parcels.flatMap Parcel.encoded).head? = some startMarker ∧
      headerSize ≤ (parcels.flatMap Parcel.encoded).length := by
  obtain ⟨parcel, parcels, rfl⟩ := List.exists_cons_of_ne_nil hsome
  have hfirst := hsent parcel List.mem_cons_self
  constructor
  · rw [List.flatMap_cons, List.head?_append, hfirst.head?_encoded]
    rfl
  · rw [List.flatMap_cons, List.length_append, hfirst.length_encoded]
    unfold frameOverhead
    omega

/-- The frames that are found behind noise. -/
theorem frames_noise_append {rest : Bytes} (hnoise : startMarker ∉ noise)
    (hmarker : rest.head? = some startMarker) (hlength : headerSize ≤ rest.length) :
    (scan limit mode (noise ++ rest)).frames = (scan limit mode rest).frames := by
  rw [scan_noise_append hnoise hmarker hlength, frames, List.filterMap_append,
    filterMap_replicate_badMarker]
  rfl

/-- The frames that are found in a parcel and behind it. -/
theorem frames_sent_append (h : parcel.Sent limit mode) (rest : Bytes) :
    (scan limit mode (parcel.encoded ++ rest)).frames =
      parcel.frame :: (scan limit mode rest).frames := by
  rw [h.scan_append]
  rfl

theorem frames_flatMap (hsent : ∀ parcel ∈ parcels, parcel.Sent limit mode) :
    (scan limit mode (parcels.flatMap Parcel.encoded)).frames = parcels.map Parcel.frame := by
  induction parcels with
  | nil =>
    rw [List.flatMap_nil, scan_of_next?_none rfl]
    rfl
  | cons parcel parcels ih =>
    rw [List.forall_mem_cons] at hsent
    rw [List.flatMap_cons, frames_sent_append hsent.1, ih hsent.2, List.map_cons]

/-- A scan that begins anywhere in some marked parcels finds all the parcels behind these. -/
theorem suffix_frames_scan_drop (hmarked : ∀ parcel ∈ earlier ++ later, parcel.Marked limit mode)
    {count : Nat} (hcount : count ≤ (earlier.flatMap Parcel.encoded).length) :
    later.map Parcel.frame <:+
      (scan limit mode (((earlier ++ later).flatMap Parcel.encoded).drop count)).frames := by
  induction earlier generalizing count with
  | nil =>
    obtain rfl : count = 0 := Nat.le_zero.mp hcount
    rw [List.nil_append] at hmarked ⊢
    rw [List.drop_zero, frames_flatMap fun parcel h ↦ (hmarked parcel h).sent]
  | cons parcel earlier ih =>
    rw [List.cons_append, List.forall_mem_cons] at hmarked
    rw [List.flatMap_cons, List.length_append] at hcount
    have hbehind : later.map Parcel.frame <:+
        (scan limit mode ((earlier ++ later).flatMap Parcel.encoded)).frames :=
      ih hmarked.2 (Nat.zero_le _)
    rw [List.cons_append, List.flatMap_cons, List.drop_append]
    rcases Nat.lt_or_ge count parcel.encoded.length with hinside | hover
    · rw [Nat.sub_eq_zero_of_le hinside.le, List.drop_zero]
      rcases Nat.eq_zero_or_pos count with rfl | hpositive
      · rw [List.drop_zero, frames_sent_append hmarked.1.sent]
        exact hbehind.trans (List.suffix_cons _ _)
      · by_cases hsome : earlier ++ later = []
        · rw [(List.append_eq_nil_iff.mp hsome).2]
          exact List.nil_suffix
        · have hbegins := begins_flatMap (fun parcel h ↦ (hmarked.2 parcel h).sent) hsome
          rwa [frames_noise_append (not_mem_drop hmarked.1 hpositive) hbegins.1 hbegins.2]
    · rw [List.drop_of_length_le hover, List.nil_append]
      apply ih hmarked.2
      omega

/-- Whatever stands before some marked parcels: those that begin at least the longest packet behind
it are found, and nothing is found after them. -/
theorem suffix_frames_scan (noise : Bytes)
    (hmarked : ∀ parcel ∈ earlier ++ later, parcel.Marked limit mode)
    (hreach : limit + frameOverhead ≤ (earlier.flatMap Parcel.encoded).length) :
    later.map Parcel.frame <:+
      (scan limit mode (noise ++ (earlier ++ later).flatMap Parcel.encoded)).frames := by
  -- each finding either stays within the octets before the parcels or ends inside the earlier ones
  induction hlength : noise.length using Nat.strong_induction_on generalizing noise with
  | _ length ih =>
    subst hlength
    have hlong : limit + frameOverhead ≤
        (noise ++ (earlier ++ later).flatMap Parcel.encoded).length := by
      rw [List.flatMap_append, List.length_append, List.length_append]
      omega
    obtain ⟨finding, count, hnext, hpositive, hcount⟩ := @exists_next? limit mode _ hlong
    have hlater : later.map Parcel.frame <:+ (scan limit mode
        ((noise ++ (earlier ++ later).flatMap Parcel.encoded).drop count)).frames := by
      by_cases hinside : count ≤ noise.length
      · rw [List.drop_append_of_le_length hinside]
        apply ih _ _ _ rfl
        rw [List.length_drop]
        omega
      · have hbehind : noise.length ≤ count := Nat.le_of_not_le hinside
        rw [List.drop_append, List.drop_of_length_le hbehind, List.nil_append]
        apply suffix_frames_scan_drop hmarked
        omega
    exact hlater.trans (suffix_frames_of_next? hnext)

end Scan

namespace Endpoint

variable {σ : Type} {clock : σ → Millis × σ} {x : End} {config : Config}
variable {e : Endpoint (Wire σ)} {w : Wire σ}

/-- Whatever octets stand before some frames, and however all is cut into portions: the frames that
begin at least `inSize + 2` octets behind those octets are dispatched, in their order and with their
payloads, and nothing is dispatched after them. The frames hold a start marker nowhere but at their
beginning. -/
theorem pollEach_damaged {noise : Bytes} {parcels : List Parcel} {arrivals : List Arrival}
    {count fuel : Nat} {now : Millis} (hunused : e.Unused x config w)
    (hclock : ∀ app, (clock app).1 = now)
    (hmarked : ∀ parcel ∈ parcels, parcel.Marked config.maxDeclared config.integrity)
    (hbehind : config.inSize + 2 ≤ ((parcels.take count).flatMap Parcel.encoded).length)
    (harrivals : arrivals.flatMap Arrival.octets = noise ++ parcels.flatMap Parcel.encoded)
    (hcaps : ∀ arrival ∈ arrivals, Open arrival.cap)
    (hfuel : (arrivals.flatMap Arrival.octets).length < fuel) :
    ∃ (counts : List Nat) (e' : Endpoint (Wire σ)) (w' : Wire σ),
      pollEach clock x fuel arrivals e w = (counts.map .done, e', w') ∧
      (parcels.drop count).map Parcel.frame <:+ deliveries (w'.noted x) := by
  obtain ⟨counts, last, e', w', hpolled, hheard⟩ := hunused.pollEach hclock hcaps hfuel
  have hreach : config.maxDeclared + frameOverhead ≤
      ((parcels.take count).flatMap Parcel.encoded).length := by
    obtain ⟨hin, -⟩ := config.bounds_of_valid hunused.valid
    unfold minRegionSize frameOverhead headerSize trailerSize at hin
    unfold Config.maxDeclared frameOverhead headerSize trailerSize
    omega
  rw [← List.take_append_drop count parcels] at hmarked
  have hfound := Scan.suffix_frames_scan noise hmarked hreach
  rw [List.take_append_drop, ← harrivals] at hfound
  refine ⟨counts, e', w', hpolled, ?_⟩
  rw [hheard.delivered]
  exact hfound

/-- A header that announces two octets of payload reaches into the first of three frames, and the
third is dispatched last. -/
theorem pollEach_damaged_header :
    let parcel : Parcel :=
      { type := 7, id := 1, payload := [], encoded := [0x23, 7, 1, 0, 0, 0, 0, 0, 0, 0] }
    let arrivals : List Arrival :=
      [⟨[0x23, 7, 0, 0, 2, 0, 0, 0], none⟩, ⟨parcel.encoded, some 3⟩, ⟨parcel.encoded, none⟩,
        ⟨parcel.encoded, none⟩]
    let e : Endpoint (Wire Unit) := .ofConfig (.ofSizes 18 18) 7
    let w : Wire Unit := .fresh (fun _ ↦ ⟨[], 1⟩) ()
    ∃ (counts : List Nat) (e' : Endpoint (Wire Unit)) (w' : Wire Unit),
      pollEach (fun app ↦ (0, app)) .near 39 arrivals e w = (counts.map .done, e', w') ∧
      [parcel.frame] <:+ deliveries (w'.noted .near) := by
  intro parcel arrivals e w
  have hunused : e.Unused .near (.ofSizes 18 18) w := unused_ofConfig rfl 7 _ ()
  have hmarked : ∀ sent ∈ List.replicate 3 parcel,
      sent.Marked (Config.ofSizes 18 18).maxDeclared .unchecked := by
    intro sent hmem
    rw [List.eq_of_mem_replicate hmem]
    exact ⟨⟨by decide, by decide⟩, by decide⟩
  exact @pollEach_damaged Unit (fun app ↦ (0, app)) .near (.ofSizes 18 18) e w
    [0x23, 7, 0, 0, 2, 0, 0, 0] (List.replicate 3 parcel) arrivals 2 39 0 hunused (fun _ ↦ rfl)
    hmarked (by decide) (by decide) (by decide) (by decide)

end Endpoint

end FramedLink

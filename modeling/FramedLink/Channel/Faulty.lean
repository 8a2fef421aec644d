import FramedLink.Channel.Basic

/-!
# Channels that misbehave

A channel with a plan of deviations on top of a sound one. Each call takes the next entry of its
part of the plan, if there is one: it may pass, report another count than the true one, or fail.
-/

namespace FramedLink

/-- What becomes of one call. -/
inductive Deviation where
  /-- The call is made as it is. -/
  | pass
  /-- At most `count` octets are handled, and `count` is reported. -/
  | report (count : Nat)
  /-- The call fails before it does anything. -/
  | fail (error : ChannelError)

/-- The deviations of the calls to come, by kind of call. -/
structure FaultPlan where
  available : List Deviation := []
  read : List Deviation := []
  write : List Deviation := []

instance : Inhabited FaultPlan := ⟨{}⟩

def FaultPlan.extend (plan more : FaultPlan) : FaultPlan :=
  ⟨plan.available ++ more.available, plan.read ++ more.read, plan.write ++ more.write⟩

def Deviation.next : List Deviation → Deviation × List Deviation
  | [] => (.pass, [])
  | deviation :: rest => (deviation, rest)

/-- The channel that follows a plan of deviations on top of another one. -/
def Channel.faulty {ω : Type} (plan : Slot ω FaultPlan) (sound : Channel ω) : Channel ω where
  available w :=
    let (deviation, w) := plan.run (fun p ↦
      let (deviation, available) := Deviation.next p.available
      (deviation, { p with available })) w
    match deviation with
    | .pass => sound.available w
    | .report count => (.ok count, w)
    | .fail error => (.error error, w)
  read size w :=
    let (deviation, w) := plan.run (fun p ↦
      let (deviation, read) := Deviation.next p.read
      (deviation, { p with read })) w
    match deviation with
    | .pass => sound.read size w
    | .report count =>
      let (reading, w) := sound.read (min count size) w
      ({ reading with count := reading.count.map fun _ ↦ count }, w)
    | .fail error => (⟨[], .error error⟩, w)
  write octets w :=
    let (deviation, w) := plan.run (fun p ↦
      let (deviation, write) := Deviation.next p.write
      (deviation, { p with write })) w
    match deviation with
    | .pass => sound.write octets w
    | .report count =>
      let (written, w) := sound.write (octets.take count) w
      (written.map fun _ ↦ count, w)
    | .fail error => (.error error, w)

end FramedLink

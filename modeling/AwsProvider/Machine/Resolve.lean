import AwsProvider.Cloud.Prog
import AwsProvider.Api.Types

/-!
# Resolving the resources a machine refers to

Before `launchInstance` builds its `RunInstances` request it turns the references of the
provider spec into IDs: the AMI (`getAMI`), the security groups (`getSecurityGroupsIDs`), the
subnets (`getSubnetIDs`, with the zone lookups `getAvalabilityZoneFromSubnetID` and
`getAvalabilityZoneTypeFromZoneName`) and the block devices (`getBlockDeviceMappings`). Each is a
`Prog`: its `Describe*` calls are nodes of the tree, answered by the cloud. The loops of the
source are structural recursions over the list they range over (`latestImage`,
`securityGroupIDsFrom`, `blockDeviceMappingsFrom`).

## What is proved

* every resolver makes `Describe*` calls only (`Describes`, one lemma per resolver);
* `getSubnetIDs` and `getSecurityGroupsIDs` never return an empty list, so the `subnetIDs[0]` of
  `launchInstance` never panics;
* `getAMI_latest`: an AMI reference resolves to its ID without a call, or to the `ImageId` of the
  first image whose creation time is the latest (`FirstLatest`), the loop keeping a running
  maximum that only a strictly later image replaces (`latestImage_firstLatest`);
* `getBlockDeviceMappings_spec`: the block-device mappings are those of the specs with EBS, in
  order, the one unnamed spec taking the image's root device name, each volume as
  `MapsEBSVolume` says (`blockDeviceMapping_maps`); the loop fails exactly when two specs with EBS
  are unnamed (`blockDeviceMappingsFrom_eq`).

## Honest scope

`time.Parse(time.RFC3339, ...)` is Go's library: it is a parameter `parseRFC3339`, giving the
instant or the parser's error text. The SDK never hands back a nil output without an error, so
the `result == nil` checks of the zone lookups are not modelled. Logging and metrics are left out.
-/

namespace AwsProvider.Machine

open Go EC2 Api

/-! ### Filters and the AMI -/

/-- `buildEC2Filters`. -/
def buildEC2Filters (inputFilters : List Api.Filter) : List EC2.Filter :=
  inputFilters.map fun f => ⟨f.name, f.values⟩

section AMI

variable (parseRFC3339 : String → Except String Int)

/-- `time.Parse(time.RFC3339, *image.CreationDate)`, failing with the message of `getAMI`. -/
def parseCreationDate (image : EC2.Image) : Outcome Int := do
  let creationDate ← deref "image.CreationDate" image.creationDate
  match parseRFC3339 creationDate with
  | .ok imageTime => pure imageTime
  | .error e => do
    let imageId ← deref "image.ImageId" image.imageId
    .error (.new ("unable to parse time for " ++ quote imageId ++ " AMI: " ++ e))

/-- The loop of `getAMI` over `Images[1:]`: an image replaces the latest one only when it is
strictly later (`latestTime.Before(imageTime)`). -/
def latestImage : EC2.Image → Int → List EC2.Image → Outcome EC2.Image
  | latest, _, [] => pure latest
  | latest, latestTime, image :: images => do
    let imageTime ← parseCreationDate parseRFC3339 image
    if latestTime < imageTime then latestImage image imageTime images
    else latestImage latest latestTime images

/-- `getAMI`: the ID if the reference has one, else the `ImageId` pointer of the latest image
matching the filters. -/
def getAMI (AMI : AWSResourceReference) : Prog (Option String) :=
  match AMI.id with
  | some amiID => pure (some amiID)
  | none =>
    if (AMI.filters.getD []).length > 0 then do
      let describeAMIResult ← Client.describeImages ⟨buildEC2Filters (AMI.filters.getD []), []⟩
      match describeAMIResult with
      | .error err => throw (.new ("error describing AMI: " ++ err.error))
      | .ok out =>
        match out.images with
        | [] => throw (.new "no image for given filters not found")
        | latest :: images => Prog.ofOutcome do
          let latestTime ← parseCreationDate parseRFC3339 latest
          let image ← latestImage parseRFC3339 latest latestTime images
          pure image.imageId
    else throw (.new "AMI ID or AMI filters need to be specified")

end AMI

/-! ### Security groups and subnets -/

/-- The loop of `getSecurityGroupsIDs`: a reference with an ID gives it; one with non-nil
`Filters` gives the IDs of the groups `DescribeSecurityGroups` finds; one with neither gives
nothing. -/
def securityGroupIDsFrom : List String → List AWSResourceReference → Prog (List String)
  | securityGroupIDs, [] => pure securityGroupIDs
  | securityGroupIDs, g :: gs =>
    match g.id, g.filters with
    | some id, _ => securityGroupIDsFrom (securityGroupIDs ++ [id]) gs
    | none, none => securityGroupIDsFrom securityGroupIDs gs
    | none, some filters => do
      let describeSecurityGroupsResult ← Client.describeSecurityGroups ⟨buildEC2Filters filters⟩
      match describeSecurityGroupsResult with
      | .error err => throw (.new ("error describing security groups: " ++ err.error))
      | .ok out => do
        let groupIDs ← Prog.ofOutcome
          (out.securityGroups.mapM fun g => deref "g.GroupId" g.groupId)
        securityGroupIDsFrom (securityGroupIDs ++ groupIDs) gs

/-- `getSecurityGroupsIDs`. -/
def getSecurityGroupsIDs (securityGroups : List AWSResourceReference) : Prog (List String) := do
  let securityGroupIDs ← securityGroupIDsFrom [] securityGroups
  if securityGroupIDs.isEmpty then throw (.new "no security group found") else pure securityGroupIDs

/-- `getAvalabilityZoneFromSubnetID`. -/
def getAvalabilityZoneFromSubnetID (subnetID : String) : Prog String := do
  let result ← Client.describeSubnets ⟨some false, [], [subnetID]⟩
  match result with
  | .error err => throw (.wrap "could not describe a subnet: " (.aws err))
  | .ok out =>
    match out.subnets with
    | subnet :: _ => pure (stringValue subnet.availabilityZone)
    | [] => throw (.new "could not get an availability zone from a subnet id")

/-- `getAvalabilityZoneTypeFromZoneName`. -/
def getAvalabilityZoneTypeFromZoneName (zoneName : String) : Prog String := do
  let result ← Client.describeAvailabilityZones ⟨some false, [zoneName]⟩
  match result with
  | .error err => throw (.wrap "could not describe a zones: " (.aws err))
  | .ok out =>
    match out.availabilityZones with
    | zone :: _ => pure (stringValue zone.zoneType)
    | [] => throw (.new "could not get an availability zone type from a zone name")

/-- `getSubnetIDs`. With an ID the zone lookup only logs: its error, and a zone other than
`availabilityZone`, are ignored. -/
def getSubnetIDs (subnet : AWSResourceReference) (availabilityZone : String) :
    Prog (List String) :=
  match subnet.id with
  | some id => do
    let _ ← (getAvalabilityZoneFromSubnetID id).attempt
    pure [id]
  | none => do
    let zoneFilters ← (if availabilityZone ≠ "" then do
        let r ← Client.describeAvailabilityZones ⟨none, [availabilityZone]⟩
        match r with
        | .error err => throw (.new ("error describing availability zones: " ++ err.error))
        | .ok _ => pure [⟨"availabilityZone", [availabilityZone]⟩]
      else pure [] : Prog (List Api.Filter))
    let describeSubnetResult ← Client.describeSubnets
      ⟨none, buildEC2Filters (zoneFilters ++ subnet.filters.getD []), []⟩
    match describeSubnetResult with
    | .error err => throw (.new ("error describing subnets: " ++ err.error))
    | .ok out => do
      let subnetIDs ← Prog.ofOutcome (out.subnets.mapM fun n => deref "n.SubnetId" n.subnetId)
      if subnetIDs.isEmpty then throw (.new "no subnet IDs were found") else pure subnetIDs

/-! ### Block devices -/

/-- The `ec2.BlockDeviceMapping` of a spec with an EBS volume, under `deviceName`. IOPS are only
sent for `io1`, `io2` and `gp3` volumes, and only when positive. -/
def blockDeviceMapping (deviceName : Option String) (ebs : EBSBlockDeviceSpec) :
    EC2.BlockDeviceMapping where
  deviceName := deviceName
  ebs := some
    { volumeSize := ebs.volumeSize
      volumeType := ebs.volumeType
      encrypted := ebs.encrypted
      deleteOnTermination := some true
      iops := if stringValue ebs.volumeType ∈ [volumeTypeIo1, volumeTypeIo2, volumeTypeGp3] then
          ebs.iops.filter (0 < ·) else none
      kmsKeyId := if stringValue ebs.kmsKey.id ≠ "" then ebs.kmsKey.id
        else if stringValue ebs.kmsKey.arn ≠ "" then ebs.kmsKey.arn else none }

/-- The loop of `getBlockDeviceMappings`: specs without EBS are skipped; the one unnamed spec
gets the AMI's root device name, and a second unnamed one is an error. -/
def blockDeviceMappingsFrom (rootDeviceName : Option String) :
    Bool → List BlockDeviceMappingSpec → Outcome (List EC2.BlockDeviceMapping)
  | _, [] => pure []
  | rootDeviceFound, spec :: specs =>
    match spec.ebs, spec.deviceName with
    | none, _ => blockDeviceMappingsFrom rootDeviceName rootDeviceFound specs
    | some ebs, some deviceName =>
      (blockDeviceMapping (some deviceName) ebs :: ·) <$>
        blockDeviceMappingsFrom rootDeviceName rootDeviceFound specs
    | some ebs, none =>
      if rootDeviceFound then .error (.new "non root device must have name")
      else (blockDeviceMapping rootDeviceName ebs :: ·) <$>
        blockDeviceMappingsFrom rootDeviceName true specs

/-- `getBlockDeviceMappings`. -/
def getBlockDeviceMappings (blockDeviceMappingSpecs : List BlockDeviceMappingSpec) (AMI : String) :
    Prog (List EC2.BlockDeviceMapping) :=
  if blockDeviceMappingSpecs.isEmpty then pure [] else do
    let describeAMIResult ← Client.describeImages ⟨[], [AMI]⟩
    match describeAMIResult with
    | .error err => throw (.new ("error describing AMI: " ++ err.error))
    | .ok out =>
      match out.images with
      | [] => throw (.new "no image for given AMI not found")
      | image :: _ => Prog.ofOutcome (blockDeviceMappingsFrom image.rootDeviceName false
          blockDeviceMappingSpecs)

/-! ### Only describe calls -/

/-- `p` makes `Describe*` calls only. -/
def Describes {α : Type} (p : Prog α) : Prop := p.Sat (·.isDescribe) fun _ => True

section Describes

variable {α β : Type}

theorem Describes.bind {p : Prog α} {f : α → Prog β} (hp : Describes p)
    (hf : ∀ v, Describes (f v)) : Describes (p >>= f) :=
  Prog.Sat.bind hp (fun v _ => hf v) (fun _ _ => trivial) (fun _ _ => trivial)

theorem describes_ofOutcome (x : Outcome α) : Describes (Prog.ofOutcome x) :=
  (Prog.sat_ofOutcome _ x).mpr trivial

theorem Describes.attempt {p : Prog α} (hp : Describes p) : Describes p.attempt :=
  Prog.sat_attempt (hp.mono (fun _ h => h) fun o _ => by cases o <;> trivial)

end Describes

section AMI

variable (parseRFC3339 : String → Except String Int)

theorem getAMI_describes (AMI : AWSResourceReference) : Describes (getAMI parseRFC3339 AMI) := by
  unfold getAMI
  split
  · trivial
  split_ifs
  · refine Prog.sat_client_bind (.describeImages _) (by rfl) _ fun r => ?_
    rcases r with _ | ⟨_ | _⟩
    exacts [trivial, trivial, describes_ofOutcome _]
  · trivial

end AMI

theorem securityGroupIDsFrom_describes (securityGroupIDs : List String)
    (gs : List AWSResourceReference) : Describes (securityGroupIDsFrom securityGroupIDs gs) := by
  induction gs generalizing securityGroupIDs with
  | nil => trivial
  | cons g gs ih =>
    unfold securityGroupIDsFrom
    split
    · exact ih _
    · exact ih _
    · refine Prog.sat_client_bind (.describeSecurityGroups _) (by rfl) _ fun r => ?_
      rcases r with _ | _
      exacts [trivial, (describes_ofOutcome _).bind fun _ => ih _]

/-- `getSecurityGroupsIDs` asks only describe calls, and never returns an empty list. -/
theorem getSecurityGroupsIDs_sat (securityGroups : List AWSResourceReference) :
    (getSecurityGroupsIDs securityGroups).Sat (·.isDescribe) (Outcome.Spec (· ≠ []) fun _ => True) := by
  refine Prog.Sat.bind (securityGroupIDsFrom_describes [] securityGroups) (fun ids _ => ?_)
    (fun _ _ => trivial) (fun _ _ => trivial)
  split_ifs with h
  · trivial
  · simpa using h

theorem getAvalabilityZoneFromSubnetID_describes (subnetID : String) :
    Describes (getAvalabilityZoneFromSubnetID subnetID) := by
  refine Prog.sat_client_bind (.describeSubnets _) (by rfl) _ fun r => ?_
  rcases r with _ | ⟨_ | _⟩ <;> trivial

theorem getAvalabilityZoneTypeFromZoneName_describes (zoneName : String) :
    Describes (getAvalabilityZoneTypeFromZoneName zoneName) := by
  refine Prog.sat_client_bind (.describeAvailabilityZones _) (by rfl) _ fun r => ?_
  rcases r with _ | ⟨_ | _⟩ <;> trivial

/-- `getSubnetIDs` asks only describe calls, and never returns an empty list. -/
theorem getSubnetIDs_sat (subnet : AWSResourceReference) (availabilityZone : String) :
    (getSubnetIDs subnet availabilityZone).Sat (·.isDescribe) (Outcome.Spec (· ≠ []) fun _ => True) := by
  unfold getSubnetIDs
  split
  · exact Prog.Sat.bind (getAvalabilityZoneFromSubnetID_describes _).attempt
      (fun _ _ => List.cons_ne_nil _ _) (fun _ _ => trivial) (fun _ _ => trivial)
  · refine Prog.Sat.bind (?_ : Describes _) (fun zoneFilters _ => ?_)
      (fun _ _ => trivial) (fun _ _ => trivial)
    · split_ifs
      · refine Prog.sat_client_bind (.describeAvailabilityZones _) (by rfl) _ fun r => ?_
        rcases r with _ | _ <;> trivial
      · trivial
    · refine Prog.sat_client_bind (.describeSubnets _) (by rfl) _ fun r => ?_
      rcases r with _ | _
      · trivial
      · refine Prog.Sat.bind (describes_ofOutcome _) (fun ids _ => ?_)
          (fun _ _ => trivial) (fun _ _ => trivial)
        split_ifs with h
        · trivial
        · simpa using h

theorem getBlockDeviceMappings_describes (blockDeviceMappingSpecs : List BlockDeviceMappingSpec)
    (AMI : String) : Describes (getBlockDeviceMappings blockDeviceMappingSpecs AMI) := by
  unfold getBlockDeviceMappings
  split_ifs
  · trivial
  · refine Prog.sat_client_bind (.describeImages _) (by rfl) _ fun r => ?_
    rcases r with _ | ⟨_ | _⟩
    exacts [trivial, trivial, describes_ofOutcome _]

/-! ### The AMI a reference resolves to -/

/-- `image` is the first of `images` whose creation time is the latest: no image is later, and
every image before it is strictly earlier. -/
def FirstLatest (time : EC2.Image → Int) (images : List EC2.Image) (image : EC2.Image) : Prop :=
  ∃ pre post, images = pre ++ image :: post ∧ (∀ x ∈ pre, time x < time image) ∧
    ∀ x ∈ post, time x ≤ time image

namespace FirstLatest

variable {time : EC2.Image → Int} {images : List EC2.Image} {image : EC2.Image}

theorem le (hl : FirstLatest time images image) : ∀ x ∈ images, time x ≤ time image := by
  obtain ⟨pre, post, rfl, hpre, hpost⟩ := hl
  intro x hx
  rcases List.mem_append.mp hx with hx | hx
  · exact Int.le_of_lt (hpre x hx)
  rcases List.mem_cons.mp hx with rfl | hx
  exacts [Int.le_refl _, hpost x hx]

/-- An image no later than the latest one leaves it the first latest. -/
theorem snoc_le (hl : FirstLatest time images image) {x : EC2.Image} (hx : time x ≤ time image) :
    FirstLatest time (images ++ [x]) image := by
  obtain ⟨pre, post, rfl, hpre, hpost⟩ := hl
  refine ⟨pre, post ++ [x], by simp, hpre, fun y hy => ?_⟩
  rcases List.mem_append.mp hy with hy | hy
  exacts [hpost y hy, List.mem_singleton.mp hy ▸ hx]

/-- A strictly later image is the new first latest one. -/
theorem snoc_lt (hl : FirstLatest time images image) {x : EC2.Image} (hx : time image < time x) :
    FirstLatest time (images ++ [x]) x :=
  ⟨images, [], rfl, fun y hy => Int.lt_of_le_of_lt (hl.le y hy) hx, by simp⟩

end FirstLatest

section AMI

variable (parseRFC3339 : String → Except String Int)

theorem parseCreationDate_ok {image : EC2.Image} {creationDate : String} {t : Int}
    (hd : image.creationDate = some creationDate) (ht : parseRFC3339 creationDate = .ok t) :
    parseCreationDate parseRFC3339 image = .ok t := by
  simp [parseCreationDate, hd, ht]

theorem parseCreationDate_error {image : EC2.Image} {creationDate e : String}
    (hid : image.imageId.isSome) (hd : image.creationDate = some creationDate)
    (he : parseRFC3339 creationDate = .error e) :
    ∃ err, parseCreationDate parseRFC3339 image = .error err := by
  obtain ⟨imageId, hid⟩ := Option.isSome_iff_exists.mp hid
  exact ⟨.new ("unable to parse time for " ++ quote imageId ++ " AMI: " ++ e),
    by simp [parseCreationDate, hd, he, hid]⟩

/-- The loop invariant of `getAMI`: after the images `seen`, whose first latest one is `latest`,
the loop returns the first latest image of all. -/
theorem latestImage_firstLatest (time : EC2.Image → Int) (images : List EC2.Image)
    (htime : ∀ x ∈ images, ∃ d, x.creationDate = some d ∧ parseRFC3339 d = .ok (time x)) :
    ∀ seen latest, FirstLatest time seen latest →
      ∃ image, latestImage parseRFC3339 latest (time latest) images = .ok image ∧
        FirstLatest time (seen ++ images) image := by
  induction images with
  | nil => exact fun seen latest hl => ⟨latest, rfl, by simpa using hl⟩
  | cons x xs ih =>
    intro seen latest hl
    obtain ⟨d, hd, ht⟩ := htime x (List.mem_cons_self _ _)
    have ih := ih fun y hy => htime y (List.mem_cons_of_mem _ hy)
    simp only [latestImage, parseCreationDate_ok parseRFC3339 hd ht, Outcome.ok_bind]
    split_ifs with hlt
    · simpa using ih (seen ++ [x]) x (hl.snoc_lt hlt)
    · simpa using ih (seen ++ [x]) latest (hl.snoc_le (Int.not_lt.mp hlt))

/-- Parsing the creation date of `x`, then going on with `k`, fails when a creation date of
`x :: xs` does not parse, if `k` fails whenever one of `xs` does not. -/
theorem parseCreationDate_bind_error {α : Type} {x : EC2.Image} {xs : List EC2.Image}
    (k : Int → Outcome α) (hwell : ∀ y ∈ x :: xs, y.imageId.isSome ∧ y.creationDate.isSome)
    (hbad : ∃ y ∈ x :: xs, ∃ d e, y.creationDate = some d ∧ parseRFC3339 d = .error e)
    (hk : (∃ y ∈ xs, ∃ d e, y.creationDate = some d ∧ parseRFC3339 d = .error e) →
      ∀ t, ∃ err, k t = .error err) :
    ∃ err, (parseCreationDate parseRFC3339 x >>= k) = .error err := by
  obtain ⟨d, hd⟩ := Option.isSome_iff_exists.mp (hwell x (List.mem_cons_self _ _)).2
  cases ht : parseRFC3339 d with
  | error e =>
    obtain ⟨err, herr⟩ :=
      parseCreationDate_error parseRFC3339 (hwell x (List.mem_cons_self _ _)).1 hd ht
    exact ⟨err, by rw [herr]; rfl⟩
  | ok t =>
    rw [parseCreationDate_ok parseRFC3339 hd ht]
    refine hk ?_ t
    obtain ⟨y, hy, d', e, hd', he⟩ := hbad
    rcases List.mem_cons.mp hy with rfl | hy
    · cases hd.symm.trans hd'
      cases ht.symm.trans he
    · exact ⟨y, hy, d', e, hd', he⟩

/-- The loop fails when a creation date does not parse. -/
theorem latestImage_error (images : List EC2.Image)
    (hwell : ∀ x ∈ images, x.imageId.isSome ∧ x.creationDate.isSome)
    (hbad : ∃ x ∈ images, ∃ d e, x.creationDate = some d ∧ parseRFC3339 d = .error e) :
    ∀ latest latestTime, ∃ err, latestImage parseRFC3339 latest latestTime images = .error err := by
  induction images with
  | nil => simp at hbad
  | cons x xs ih =>
    refine fun latest latestTime => parseCreationDate_bind_error parseRFC3339 _ hwell hbad
      fun hrest t => ?_
    have ih := ih (fun y hy => hwell y (List.mem_cons_of_mem _ hy)) hrest
    split_ifs
    exacts [ih _ _, ih _ _]

/-- **The AMI of a reference.** With an ID, `getAMI` returns it and calls nothing. Otherwise,
with filters, it makes the one `DescribeImages` call, and fails when the call fails, when no
image matches, or when a creation date does not parse; when all parse, it returns the `ImageId`
of the first image whose creation time is the latest. With neither it fails. The images the
cloud returns carry an `ImageId` and a `CreationDate`. -/
theorem getAMI_latest (AMI : AWSResourceReference) (cloud : Cloud) (h : List Call)
    (hwell : ∀ out, cloud h (.describeImages ⟨buildEC2Filters (AMI.filters.getD []), []⟩) =
      .ok out → ∀ x ∈ out.images, x.imageId.isSome ∧ x.creationDate.isSome) :
    let run := (getAMI parseRFC3339 AMI).run cloud h
    let describe : Call := .describeImages ⟨buildEC2Filters (AMI.filters.getD []), []⟩
    (∀ id, AMI.id = some id → run = (.ok (some id), h)) ∧
    (AMI.id = none → AMI.filters.getD [] ≠ [] →
      run.2 = h ++ [describe] ∧
      ((∃ err, cloud h describe = .error err) → ∃ e, run.1 = .error e) ∧
      ∀ out, cloud h describe = .ok out →
        (out.images = [] → ∃ e, run.1 = .error e) ∧
        ((∃ x ∈ out.images, ∃ d e, x.creationDate = some d ∧ parseRFC3339 d = .error e) →
          ∃ e, run.1 = .error e) ∧
        ∀ time : EC2.Image → Int, out.images ≠ [] →
          (∀ x ∈ out.images, ∃ d, x.creationDate = some d ∧ parseRFC3339 d = .ok (time x)) →
          ∃ image, FirstLatest time out.images image ∧ run.1 = .ok image.imageId) ∧
    (AMI.id = none → AMI.filters.getD [] = [] → ∃ e, run = (.error e, h)) := by
  intro run describe
  refine ⟨fun id hid => by simp [run, getAMI, hid], fun hid hf => ?_, fun hid hf =>
    ⟨.new "AMI ID or AMI filters need to be specified", by simp [run, getAMI, hid, hf]⟩⟩
  simp only [run, describe, getAMI, hid, if_pos (List.length_pos.mpr hf), Client.describeImages,
    Prog.call_bind, Prog.pure_bind, Prog.run_call]
  generalize cloud h _ = r at hwell ⊢
  rcases r with err | ⟨_ | ⟨latest, images⟩⟩
  case error => exact ⟨rfl, fun _ => ⟨_, rfl⟩, fun _ h => (nomatch h)⟩
  case nil =>
    refine ⟨rfl, fun ⟨_, h⟩ => (nomatch h), fun out hout => ?_⟩
    cases hout
    exact ⟨fun _ => ⟨_, rfl⟩, fun ⟨_, h, _⟩ => (nomatch h), fun _ h => absurd rfl h⟩
  case cons =>
    simp only [Prog.run_ofOutcome]
    refine ⟨trivial, fun ⟨_, h⟩ => (nomatch h), fun out hout => ?_⟩
    cases hout
    have hwell := hwell _ rfl
    refine ⟨fun h => (nomatch h), fun hbad => ?_, fun time _ htime => ?_⟩
    · refine parseCreationDate_bind_error parseRFC3339 _ hwell hbad fun hrest t => ?_
      obtain ⟨err, herr⟩ := latestImage_error parseRFC3339 images
        (fun y hy => hwell y (List.mem_cons_of_mem _ hy)) hrest latest t
      exact ⟨err, by simp [herr]⟩
    · obtain ⟨d, hd, ht⟩ := htime latest (List.mem_cons_self _ _)
      obtain ⟨image, himage, hl⟩ := latestImage_firstLatest parseRFC3339 time images
        (fun x hx => htime x (List.mem_cons_of_mem _ hx)) [latest] latest
        ⟨[], [], rfl, by simp, by simp⟩
      exact ⟨image, hl, by simp [parseCreationDate_ok parseRFC3339 hd ht, himage]⟩

end AMI

/-- Two images created at the same instant, as in the repository's test of `launchInstance`. -/
def sameInstantImages : List EC2.Image :=
  [⟨some "ami-a", some "2020-01-01T00:00:00Z", none⟩, ⟨some "ami-b", some "2020-01-01T00:00:00Z", none⟩]

/-- A cloud that answers every `DescribeImages` with `sameInstantImages`. -/
def sameInstantCloud : Cloud := fun _ c =>
  match c with
  | .describeImages _ => .ok ⟨sameInstantImages⟩
  | c => Call.failure (.other "unexpected call") c

theorem getAMI_latest_sameInstant :
    (∀ out, sameInstantCloud [] (.describeImages ⟨buildEC2Filters [⟨"name", ["rhcos"]⟩], []⟩) =
      .ok out → ∀ x ∈ out.images, x.imageId.isSome ∧ x.creationDate.isSome) ∧
    ∃ image, FirstLatest (fun _ => 0) sameInstantImages image ∧
      ((getAMI (fun _ => .ok 0) ⟨none, none, some [⟨"name", ["rhcos"]⟩]⟩).run
        sameInstantCloud []).1 = .ok image.imageId :=
  have hwell : ∀ out, sameInstantCloud [] (.describeImages ⟨buildEC2Filters [⟨"name", ["rhcos"]⟩], []⟩) =
      .ok out → ∀ x ∈ out.images, x.imageId.isSome ∧ x.creationDate.isSome := by
    rintro out ⟨⟩
    decide
  ⟨hwell, (((getAMI_latest (fun _ => .ok 0) ⟨none, none, some [⟨"name", ["rhcos"]⟩]⟩ sameInstantCloud []
    hwell).2.1 rfl (by simp)).2.2 _ rfl).2.2 (fun _ => 0) (by simp [sameInstantImages])
    (by simp [sameInstantImages])⟩

/-! ### The block devices -/

/-- The loop of `getBlockDeviceMappings` in closed form: it fails exactly when the unnamed specs
with EBS, with one more if the root device was already named, are two or more. -/
theorem blockDeviceMappingsFrom_eq (rootDeviceName : Option String) (found : Bool)
    (specs : List BlockDeviceMappingSpec) :
    blockDeviceMappingsFrom rootDeviceName found specs =
      if specs.countP (fun s => s.ebs.isSome && s.deviceName.isNone) + found.toNat ≤ 1 then
        .ok (specs.filterMap fun s => s.ebs.map (blockDeviceMapping (s.deviceName.or rootDeviceName)))
      else .error (.new "non root device must have name") := by
  induction specs generalizing found with
  | nil => cases found <;> rfl
  | cons s ss ih =>
    rcases s with ⟨_ | d, _ | ebs⟩
    all_goals simp only [blockDeviceMappingsFrom, ih, List.countP_cons, List.filterMap_cons,
      Option.isSome_none, Option.isSome_some, Option.isNone_none, Option.isNone_some,
      Bool.false_and, Bool.and_false, Bool.and_true, Bool.false_eq_true, ↓reduceIte, Nat.add_zero,
      Option.map_some', Option.map_none', Option.none_or, Option.or_some, Bool.toNat_true,
      Bool.toNat_false]
    all_goals try cases found
    all_goals split_ifs <;> first | rfl | omega | contradiction

/-- What `getBlockDeviceMappings` sends for a spec with EBS volume `ebs`: size, type and
encryption as given, `DeleteOnTermination` set, IOPS only for `io1`, `io2` and `gp3` volumes and
only when positive, and the KMS key's ID, else its ARN, else no key. -/
structure MapsEBSVolume (ebs : EBSBlockDeviceSpec) (d : EC2.EbsBlockDevice) : Prop where
  volumeSize : d.volumeSize = ebs.volumeSize
  volumeType : d.volumeType = ebs.volumeType
  encrypted : d.encrypted = ebs.encrypted
  deleteOnTermination : d.deleteOnTermination = some true
  iops : ∀ n, d.iops = some n ↔
    stringValue ebs.volumeType ∈ [volumeTypeIo1, volumeTypeIo2, volumeTypeGp3] ∧
      ebs.iops = some n ∧ 0 < n
  kmsKeyByID : stringValue ebs.kmsKey.id ≠ "" → d.kmsKeyId = ebs.kmsKey.id
  kmsKeyByARN : stringValue ebs.kmsKey.id = "" → stringValue ebs.kmsKey.arn ≠ "" →
    d.kmsKeyId = ebs.kmsKey.arn
  noKmsKey : stringValue ebs.kmsKey.id = "" → stringValue ebs.kmsKey.arn = "" → d.kmsKeyId = none

/-- `blockDeviceMapping` keeps the device name and maps the volume as `MapsEBSVolume` says. -/
theorem blockDeviceMapping_maps (deviceName : Option String) (ebs : EBSBlockDeviceSpec) :
    ∃ d, blockDeviceMapping deviceName ebs = ⟨deviceName, some d⟩ ∧ MapsEBSVolume ebs d := by
  refine ⟨_, rfl, rfl, rfl, rfl, rfl, fun n => ?_, fun h => if_pos h, fun h h' => ?_, fun h h' => ?_⟩
  · dsimp only
    split_ifs with ht <;> simp [ht, Option.filter_eq_some, and_comm]
  · simp [h, h']
  · simp [h, h']

/-- The mappings of the specs with EBS, in order, each under the spec's name or `rootDeviceName`. -/
theorem forall₂_blockDeviceMapping (rootDeviceName : Option String)
    (specs : List BlockDeviceMappingSpec) :
    List.Forall₂ (fun s m => ∃ ebs d, s.ebs = some ebs ∧
        m = ⟨s.deviceName.or rootDeviceName, some d⟩ ∧ MapsEBSVolume ebs d)
      (specs.filter (·.ebs.isSome))
      (specs.filterMap fun s => s.ebs.map (blockDeviceMapping (s.deviceName.or rootDeviceName))) := by
  induction specs with
  | nil => exact .nil
  | cons s ss ih =>
    rcases s with ⟨deviceName, _ | ebs⟩
    · simpa using ih
    · obtain ⟨d, hd, hmaps⟩ := blockDeviceMapping_maps (deviceName.or rootDeviceName) ebs
      simp only [List.filter_cons, Option.isSome_some, if_true, List.filterMap_cons, Option.map_some', hd]
      exact .cons ⟨ebs, d, rfl, rfl, hmaps⟩ ih

/-- **Block devices.** With no spec, `getBlockDeviceMappings` returns no mapping and calls
nothing. Otherwise it makes the one `DescribeImages` call of the AMI, and fails when the call
fails or finds no image, or when two or more specs with EBS have no device name; else it returns
one mapping per spec with EBS, in order, under the spec's device name or, for the one unnamed
spec, the image's root device name, its volume as `MapsEBSVolume` says. -/
theorem getBlockDeviceMappings_spec (specs : List BlockDeviceMappingSpec) (AMI : String)
    (cloud : Cloud) (h : List Call) :
    let run := (getBlockDeviceMappings specs AMI).run cloud h
    let describe : Call := .describeImages ⟨[], [AMI]⟩
    let unnamed := specs.countP fun s => s.ebs.isSome && s.deviceName.isNone
    (specs = [] → run = (.ok [], h)) ∧
    (specs ≠ [] →
      run.2 = h ++ [describe] ∧
      ((∃ err, cloud h describe = .error err) → ∃ e, run.1 = .error e) ∧
      ∀ out, cloud h describe = .ok out →
        (out.images = [] → ∃ e, run.1 = .error e) ∧
        ∀ image images, out.images = image :: images →
          (2 ≤ unnamed → ∃ e, run.1 = .error e) ∧
          (unnamed ≤ 1 → ∃ mappings, run.1 = .ok mappings ∧
            List.Forall₂ (fun s m => ∃ ebs d, s.ebs = some ebs ∧
                m = ⟨s.deviceName.or image.rootDeviceName, some d⟩ ∧ MapsEBSVolume ebs d)
              (specs.filter (·.ebs.isSome)) mappings)) := by
  intro run describe unnamed
  refine ⟨fun hnil => by simp [run, getBlockDeviceMappings, hnil], fun hne => ?_⟩
  simp only [run, describe, getBlockDeviceMappings, List.isEmpty_iff, if_neg hne,
    Client.describeImages, Prog.call_bind, Prog.pure_bind, Prog.run_call]
  generalize cloud h _ = r
  rcases r with err | ⟨_ | ⟨image, images⟩⟩
  case error => exact ⟨rfl, fun _ => ⟨_, rfl⟩, fun _ h => (nomatch h)⟩
  case nil =>
    refine ⟨rfl, fun ⟨_, h⟩ => (nomatch h), fun out hout => ?_⟩
    cases hout
    exact ⟨fun _ => ⟨_, rfl⟩, fun _ _ h => (nomatch h)⟩
  case cons =>
    simp only [Prog.run_ofOutcome, blockDeviceMappingsFrom_eq, Bool.toNat_false, Nat.add_zero]
    refine ⟨trivial, fun ⟨_, h⟩ => (nomatch h), fun out hout => ?_⟩
    cases hout
    refine ⟨fun h => (nomatch h), fun image' images' himage => ?_⟩
    cases himage
    exact ⟨fun h2 => ⟨_, if_neg (by omega)⟩,
      fun h1 => ⟨_, if_pos h1, forall₂_blockDeviceMapping _ specs⟩⟩

end AwsProvider.Machine

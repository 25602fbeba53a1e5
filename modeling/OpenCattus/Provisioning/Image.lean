import OpenCattus.OperatingSystem

/-!
# Stateless images of xCAT

`createImage` builds the root image of an osimage, or reuses the one that is there. A marker
file for each osimage names the queue system that the image was built for: it is removed
before a rebuild and written again after `genimage`.

`reuses_iff` says when a run reuses, `preserves_createImage` what the markers mean at every
point where a run can stop, and `image_reuse_sound_iff` follows the reuse through a sequence
of runs.
-/

namespace OpenCattus

open Foundations Foundations.Text Foundations.Inet Foundations.Program

namespace XCAT

/-! ## The cluster and the options -/

inductive QueueKind where
  | None | SLURM | PBS
  deriving DecidableEq, Repr

inductive ImageType where
  | Install | Netboot
  deriving DecidableEq, Repr

inductive NodeType where
  | Compute | Service
  deriving DecidableEq, Repr

/-- What `createImage` reads of the cluster. -/
structure Site where
  /-- The operating system of the first node. -/
  nodeOS : OS
  queue : Option QueueKind
  hostname : String
  /-- The address of the head node on the management network. -/
  management : Address
  deriving DecidableEq, Repr

structure Options where
  dryRun : Bool := false
  forceGenimage : Bool := false
  skipCopycds : Bool := false
  deriving DecidableEq, Repr

/-- The steps of `createImage` that may throw. -/
inductive Step where
  | configurePlatform
  | removeMarker
  | copycds
  | copycdsCompatibility
  | cleanStatelessRootImage
  | defineImage
  | createDirectoryTree
  | configureSELinux
  | configureOpenHPC
  | configureTimeService
  | configureRemoteAccess
  | configureInfiniband
  | configureQueue
  | generateOtherPkgListFile
  | generatePostinstallFile
  | configureOSImageDefinition
  | customizeImage
  | genimage
  | removeStamp
  | addStamp
  | generateSynclistsFile
  | finalizeStatelessRootImage
  | packimage
  deriving DecidableEq, Repr

/-- One run of the installer. `fails` are the steps that throw, `defines` what the commands
of a step make of the definition of the osimage, whether the step throws or not. -/
structure Run where
  site : Site
  options : Options := {}
  imageType : ImageType := .Netboot
  nodeType : NodeType := .Compute
  fails : Step → Bool := fun _ => false
  defines : Step → Bool → Bool := fun _ defined => defined

/-! ## Names -/

/-- The distribution with the version, as in `rocky9.5`. -/
def getOSImageDistroVersion (nodeOS : OS) : String :=
  match nodeOS.distro with
  | .RHEL => "rhels" ++ nodeOS.getVersion ++ if nodeOS.platform = .el9 then ".0" else ""
  | .OL => "ol" ++ nodeOS.getVersion
  | .Rocky => "rocky" ++ nodeOS.getVersion
  | .AlmaLinux => "alma" ++ nodeOS.getVersion
  | .Ubuntu => "ubuntu" ++ nodeOS.getVersion

def generateOSImageName (nodeOS : OS) (imageType : ImageType) (nodeType : NodeType) : String :=
  getOSImageDistroVersion nodeOS ++ "-" ++
    (match nodeOS.arch with
      | .x86_64 => "x86_64"
      | .ppc64le => "ppc64le") ++ "-" ++
    (match imageType with
      | .Install => "install"
      | .Netboot => "netboot") ++ "-" ++
    match nodeType with
      | .Compute => "compute"
      | .Service => "service"

def Run.osimage (run : Run) : String :=
  generateOSImageName run.site.nodeOS run.imageType run.nodeType

/-! ## What the queue system stages -/

/-- The packages and the postinstall entries that a queue system adds. -/
structure Staging where
  otherpkgs : List String := []
  postinstall : List String := []
  deriving DecidableEq, Repr

/-- The directories and services of `slurmd`. -/
def slurmDirectories : String :=
  "install -d -m 0755 $IMG_ROOTIMGDIR/usr/lib/tmpfiles.d\n" ++
  "cat > $IMG_ROOTIMGDIR/usr/lib/tmpfiles.d/opencattus-slurm.conf <<'EOF'\n" ++
  "d /run/slurm 0755 slurm slurm -\n" ++
  "d /run/slurmd 0755 slurm slurm -\n" ++
  "d /var/log/slurm 0755 slurm slurm -\n" ++
  "d /var/spool/slurmd 0755 slurm slurm -\n" ++
  "f /var/log/slurm/slurmd.log 0640 slurm slurm -\n" ++
  "EOF\n" ++
  "install -d -o slurm -g slurm -m 0755 $IMG_ROOTIMGDIR/var/log/slurm " ++
  "$IMG_ROOTIMGDIR/var/spool/slurmd\n" ++
  "install -m 0640 -o slurm -g slurm /dev/null $IMG_ROOTIMGDIR/var/log/slurm/slurmd.log\n" ++
  "chroot $IMG_ROOTIMGDIR systemctl enable munge\n" ++
  "chroot $IMG_ROOTIMGDIR systemctl enable slurmd\n\n"

section

variable [Inet6]

def configureSLURM (site : Site) : Staging :=
  let deb := site.nodeOS.getPackageType = .DEB
  { otherpkgs := ["ohpc-slurm-client", if deb then "hwloc-ohpc" else "hwloc-libs"]
    postinstall :=
      ["install -d $IMG_ROOTIMGDIR/" ++ (if deb then "/etc/default" else "/etc/sysconfig") ++
        "\necho SLURMD_OPTIONS=\\\"--conf-server " ++ site.management.toText ++
        "\\\" > $IMG_ROOTIMGDIR" ++
        (if deb then "/etc/default/slurmd" else "/etc/sysconfig/slurmd") ++ "\n\n",
      slurmDirectories] }

/-- The settings of `pbs.conf` after its server, up to the server of `mom_priv/config`. -/
def pbsSettings : String :=
  "\nPBS_START_SERVER=0\n" ++
  "PBS_START_SCHED=0\n" ++
  "PBS_START_COMM=0\n" ++
  "PBS_START_MOM=1\n" ++
  "PBS_EXEC=/opt/pbs\n" ++
  "PBS_HOME=/var/spool/pbs\n" ++
  "PBS_CORE_LIMIT=4096\n" ++
  "PBS_SCP=/usr/bin/scp\n" ++
  "END\n" ++
  "chroot $IMG_ROOTIMGDIR bash -c 'test -x /opt/pbs/libexec/pbs_habitat && " ++
  "/opt/pbs/libexec/pbs_habitat || :'\n" ++
  "mkdir -p $IMG_ROOTIMGDIR/var/spool/pbs/mom_priv\n" ++
  "cat > $IMG_ROOTIMGDIR/var/spool/pbs/mom_priv/config <<'END'\n" ++
  "$clienthost "

omit [Inet6] in
def configurePBS (site : Site) : Staging where
  otherpkgs := ["openpbs-execution-ohpc"]
  postinstall :=
    ["cat > $IMG_ROOTIMGDIR/etc/pbs.conf <<'END'\nPBS_SERVER=" ++ site.hostname ++ pbsSettings ++
      site.hostname ++
      "\n$usecp *:/home /home\nEND\nchroot $IMG_ROOTIMGDIR systemctl enable pbs\n\n"]

/-- The switch over the selected queue system. -/
def queueStaging (site : Site) : Staging :=
  match site.queue with
  | some .SLURM => configureSLURM site
  | some .PBS => configurePBS site
  | some .None | none => {}

end

/-! ## Markers -/

def queueMarkerToken : Option QueueKind → String
  | some .SLURM => "slurm"
  | some .PBS => "pbs"
  | some .None | none => "none"

def queueMarkerValue (site : Site) : String :=
  if site.queue = some .PBS then queueMarkerToken site.queue ++ " " ++ site.hostname
  else queueMarkerToken site.queue

/-- `std::getline` on the marker file, compared with the current value. -/
def imageMatchesSelectedQueue (site : Site) (marker : Option String) : Bool :=
  match marker with
  | none => false
  | some content => beforeFirst '\n' content = queueMarkerValue site

def removeFile (dryRun : Bool) (file : Option String) : Option String :=
  if dryRun then file else none

/-- Appends the text unless the file has it already. The file is opened, and so created,
also in a dry run. -/
def addStringToFile (dryRun : Bool) (file : Option String) (string : String) : Option String :=
  let content := file.getD ""
  if string.toList <:+: content.toList then file
  else if dryRun then some content
  else some (content ++ string)

/-! ## The head node -/

/-- The state of one osimage: whether xCAT has a definition, the marker file, and the cluster
for which the root image was last completed, if no rebuild has begun since. -/
structure Image where
  defined : Bool := false
  marker : Option String := none
  built : Option Site := none
  deriving DecidableEq, Repr

abbrev HeadNode : Type := String → Image

abbrev Action (α : Type) : Type := Program HeadNode Exception α

def modify (osimage : String) (f : Image → Image) (s : HeadNode) : HeadNode := fun o =>
  if o = osimage then f (s o) else s o

/-- A step that may throw. -/
def attempt (run : Run) (step : Step) : Action Unit :=
  if run.fails step then raise ⟨.runtimeError, "Command failed"⟩ else pure ()

/-- A step whose commands may change the definition of the osimage. -/
def perform (run : Run) (step : Step) : Action Unit := do
  update (modify run.osimage fun image =>
    { image with
      defined := if run.options.dryRun then image.defined else run.defines step image.defined })
  attempt run step

def performAll (run : Run) : List Step → Action Unit
  | [] => pure ()
  | step :: steps => do
    perform run step
    performAll run steps

/-- `imageExists`: with `--force=genimage` the definition is removed first. -/
def imageExists (run : Run) : Action Bool :=
  if run.options.dryRun then pure false
  else do
    update (modify run.osimage fun image =>
      if run.options.forceGenimage then { image with defined := false } else image)
    let s ← read
    pure (s run.osimage).defined

def shouldReuseExistingImage (imageExists skipCopycds : Bool) : Bool := imageExists && !skipCopycds

/-- There is no path for an image that is installed. -/
def generateOSImagePath (run : Run) : Action Unit :=
  if run.imageType = .Install then
    raise ⟨.logicError, "Image path is only available on Netboot (Stateless) images"⟩
  else pure ()

/-- `createImage` up to the choice between reuse and rebuild. -/
def reuseExistingImage (run : Run) : Action Bool := do
  attempt run .configurePlatform
  generateOSImagePath run
  let imageExists ← imageExists run
  let s ← read
  let imageExists := imageExists && imageMatchesSelectedQueue run.site (s run.osimage).marker
  pure (shouldReuseExistingImage imageExists run.options.skipCopycds)

/-- The root image is touched from here on. -/
def beginRebuild (run : Run) : Action Unit :=
  update (modify run.osimage fun image =>
    { image with built := if run.options.dryRun then image.built else none })

/-- The root image is complete. -/
def completeRebuild (run : Run) : Action Unit :=
  update (modify run.osimage fun image =>
    { image with built := if run.options.dryRun then image.built else some run.site })

def writeImageQueueMarker (run : Run) : Action Unit := do
  attempt run .removeStamp
  update (modify run.osimage fun image =>
    { image with marker := removeFile run.options.dryRun image.marker })
  attempt run .addStamp
  update (modify run.osimage fun image =>
    { image with
      marker := addStringToFile run.options.dryRun image.marker
        (queueMarkerValue run.site ++ "\n") })

/-- The steps from the installation media to `genimage`. -/
def rebuildSteps : List Step :=
  [.copycds, .copycdsCompatibility, .cleanStatelessRootImage, .defineImage, .createDirectoryTree,
    .configureSELinux, .configureOpenHPC, .configureTimeService, .configureRemoteAccess,
    .configureInfiniband, .configureQueue, .generateOtherPkgListFile, .generatePostinstallFile,
    .configureOSImageDefinition, .customizeImage, .genimage]

def rebuildImage (run : Run) : Action Unit := do
  attempt run .removeMarker
  update (modify run.osimage fun image =>
    { image with marker := removeFile run.options.dryRun image.marker })
  beginRebuild run
  performAll run rebuildSteps
  completeRebuild run
  writeImageQueueMarker run

def rebuildUnless (run : Run) (reuse : Bool) : Action Unit :=
  if reuse then pure () else rebuildImage run

def createImage (run : Run) : Action Unit := do
  let reuse ← reuseExistingImage run
  rebuildUnless run reuse
  performAll run [.generateSynclistsFile, .finalizeStatelessRootImage, .packimage]

/-! ## Names and package types -/

/-- The first letter of the name of an image. -/
def initial : OS.Distro → Char
  | .RHEL | .Rocky => 'r'
  | .OL => 'o'
  | .AlmaLinux => 'a'
  | .Ubuntu => 'u'

theorem head_generateOSImageName (nodeOS : OS) (imageType : ImageType) (nodeType : NodeType) :
    (generateOSImageName nodeOS imageType nodeType).toList.head? = some (initial nodeOS.distro) := by
  unfold generateOSImageName getOSImageDistroVersion
  cases nodeOS.distro <;> simp [initial]

/-- The name of an image determines which packages its nodes use. -/
theorem getPackageType_of_generateOSImageName {os os' : OS} {imageType imageType' : ImageType}
    {nodeType nodeType' : NodeType}
    (h : generateOSImageName os imageType nodeType = generateOSImageName os' imageType' nodeType') :
    os.getPackageType = os'.getPackageType := by
  have hinitial : some (initial os.distro) = some (initial os'.distro) := by
    rw [← head_generateOSImageName os imageType nodeType, h, head_generateOSImageName]
  unfold OS.getPackageType
  cases hd : os.distro <;> cases hd' : os'.distro <;>
    first | rfl | exact absurd (hd ▸ hd' ▸ hinitial) (by decide)

/-! ## What the markers mean -/

/-- A marker that is not empty names the cluster for which the image was completed. -/
structure Consistent (osimage : String) (image : Image) : Prop where
  named : ∀ site ∈ image.built, ∃ imageType nodeType,
    generateOSImageName site.nodeOS imageType nodeType = osimage
  marked : ∀ content ∈ image.marker, content = "" ∨
    ∃ site ∈ image.built, content = queueMarkerValue site ++ "\n"

def WellMarked (s : HeadNode) : Prop := ∀ osimage, Consistent osimage (s osimage)

theorem preserves_modify {osimage : String} {f : Image → Image}
    (h : ∀ image, Consistent osimage image → Consistent osimage (f image)) :
    Preserves (update (modify osimage f) : Action Unit) WellMarked := by
  apply preserves_update
  intro s hs o
  unfold modify
  split
  · rename_i ho
    subst ho
    exact h _ (hs o)
  · exact hs o

theorem preserves_attempt {P : HeadNode → Prop} (run : Run) (step : Step) :
    Preserves (attempt run step) P := by
  unfold attempt
  split
  · exact preserves_raise _
  · exact preserves_pure _

theorem preserves_perform (run : Run) (step : Step) : Preserves (perform run step) WellMarked := by
  apply preserves_bind
  · apply preserves_modify
    intro image h
    exact ⟨h.named, h.marked⟩
  · exact fun _ => preserves_attempt run step

theorem preserves_performAll {P : HeadNode → Prop} {run : Run}
    (h : ∀ step, Preserves (perform run step) P) (steps : List Step) :
    Preserves (performAll run steps) P := by
  induction steps with
  | nil => exact preserves_pure _
  | cons step steps ih => exact preserves_bind (h step) fun _ => ih

theorem preserves_imageExists (run : Run) : Preserves (imageExists run) WellMarked := by
  unfold imageExists
  split
  · exact preserves_pure _
  · refine preserves_bind (preserves_modify ?_) fun _ => preserves_bind preserves_read fun _ =>
      preserves_pure _
    intro image h
    split
    · exact ⟨h.named, h.marked⟩
    · exact h

theorem preserves_reuseExistingImage (run : Run) :
    Preserves (reuseExistingImage run) WellMarked := by
  have hpath : Preserves (generateOSImagePath run) WellMarked := by
    unfold generateOSImagePath
    split
    · exact preserves_raise _
    · exact preserves_pure _
  exact preserves_bind (preserves_attempt run _) fun _ => preserves_bind hpath fun _ =>
    preserves_bind (preserves_imageExists run) fun _ => preserves_bind preserves_read fun _ =>
      preserves_pure _

/-- Without its marker an image may be in any condition. -/
theorem Consistent.unmarked {osimage : String} {image : Image}
    (h : Consistent osimage image) (dryRun : Bool) :
    Consistent osimage { image with marker := removeFile dryRun image.marker } := by
  refine ⟨h.named, ?_⟩
  intro content hcontent
  unfold removeFile at hcontent
  cases dryRun with
  | true => exact h.marked content hcontent
  | false => simp at hcontent

/-- Between the removal of the marker and its return there is no marker. -/
def Rebuilding (run : Run) (s : HeadNode) : Prop :=
  WellMarked s ∧ (run.options.dryRun = false → (s run.osimage).marker = none)

theorem Rebuilding.modify {run : Run} {f : Image → Image} {s : HeadNode} (hs : Rebuilding run s)
    (hmarked : ∀ image, Consistent run.osimage image →
      (run.options.dryRun = false → image.marker = none) → Consistent run.osimage (f image))
    (hmarker : ∀ image, (f image).marker = image.marker) :
    Rebuilding run (XCAT.modify run.osimage f s) := by
  constructor
  · intro o
    unfold XCAT.modify
    split
    · rename_i ho
      subst ho
      exact hmarked _ (hs.1 run.osimage) hs.2
    · exact hs.1 o
  · intro hdry
    simp only [XCAT.modify, if_true, hmarker]
    exact hs.2 hdry

theorem preserves_perform_rebuilding (run : Run) (step : Step) :
    Preserves (perform run step) (Rebuilding run) := by
  refine preserves_bind (preserves_update ?_) fun _ => preserves_attempt run step
  intro s hs
  exact hs.modify (fun image h _ => ⟨h.named, h.marked⟩) fun _ => rfl

theorem preserves_beginRebuild (run : Run) : Preserves (beginRebuild run) (Rebuilding run) := by
  apply preserves_update
  intro s hs
  apply hs.modify
  · intro image h hmarker
    cases hdry : run.options.dryRun with
    | true => exact ⟨h.named, h.marked⟩
    | false =>
      constructor
      · intro site hsite
        simp at hsite
      · intro content hcontent
        rw [hmarker hdry] at hcontent
        simp at hcontent
  · exact fun _ => rfl

/-- After `genimage` the image is the one of this run. -/
def Completed (run : Run) (s : HeadNode) : Prop :=
  Rebuilding run s ∧ (run.options.dryRun = false → (s run.osimage).built = some run.site)

theorem ensures_completeRebuild (run : Run) :
    Ensures (completeRebuild run) (Rebuilding run) (Completed run) fun _ => WellMarked := by
  apply ensures_update
  intro s hs
  have hrebuilding : Rebuilding run (modify run.osimage (fun image =>
      { image with built := if run.options.dryRun then image.built else some run.site }) s) := by
    apply hs.modify
    · intro image h hmarker
      cases hdry : run.options.dryRun with
      | true => exact ⟨h.named, h.marked⟩
      | false =>
        constructor
        · intro site hsite
          obtain rfl : run.site = site := by simpa using hsite
          exact ⟨run.imageType, run.nodeType, rfl⟩
        · intro content hcontent
          rw [hmarker hdry] at hcontent
          simp at hcontent
    · exact fun _ => rfl
  refine ⟨hrebuilding, ?_⟩
  intro hdry
  simp [modify, hdry]

/-- A dry run writes nothing. -/
theorem addStringToFile_dryRun {file : Option String} {string content : String}
    (h : content ∈ addStringToFile true file string) : content = "" ∨ content ∈ file := by
  simp only [addStringToFile, if_true] at h
  split at h
  · exact .inr h
  · cases file with
    | none => exact .inl (Option.some.inj h).symm
    | some old => exact .inr h

theorem addStringToFile_none {string : String} (h : string.toList ≠ []) :
    addStringToFile false none string = some string := by
  simp only [addStringToFile, Option.getD_none]
  rw [if_neg]
  · simp
  · simpa using h

/-- The marker that a run writes on an image it has completed. -/
theorem Consistent.stamped {run : Run} {image : Image}
    (h : Consistent run.osimage image)
    (hbuilt : run.options.dryRun = false → image.marker = none ∧ image.built = some run.site) :
    Consistent run.osimage
      { image with
        marker := addStringToFile run.options.dryRun image.marker
          (queueMarkerValue run.site ++ "\n") } := by
  refine ⟨h.named, ?_⟩
  intro content hcontent
  cases hdry : run.options.dryRun with
  | true =>
    rw [hdry] at hcontent
    rcases addStringToFile_dryRun hcontent with hempty | hold
    · exact .inl hempty
    · exact h.marked content hold
  | false =>
    obtain ⟨hmarker, hsite⟩ := hbuilt hdry
    rw [hdry, hmarker, addStringToFile_none (by simp)] at hcontent
    exact .inr ⟨run.site, hsite, (Option.some.inj hcontent).symm⟩

theorem ensures_writeImageQueueMarker (run : Run) :
    Ensures (writeImageQueueMarker run) (Completed run) WellMarked fun _ => WellMarked := by
  have hwell : ∀ (_ : Exception) s, Completed run s → WellMarked s := fun _ s hs => hs.1.1
  have hremove : Preserves (update (modify run.osimage fun image =>
      { image with marker := removeFile run.options.dryRun image.marker }) : Action Unit)
        (Completed run) := by
    apply preserves_update
    intro s hs
    refine ⟨⟨?_, ?_⟩, ?_⟩
    · exact preserves_modify (fun image h => h.unmarked _) s hs.1.1
    · intro hdry
      simp [modify, removeFile, hdry]
    · intro hdry
      simpa [modify] using hs.2 hdry
  refine ensures_bind ((preserves_attempt run _).ensures hwell) fun _ =>
    ensures_bind (hremove.ensures hwell) fun _ =>
      ensures_bind ((preserves_attempt run _).ensures hwell) fun _ => ensures_update ?_
  intro s hs o
  unfold modify
  split
  · rename_i ho
    subst ho
    exact (hs.1.1 run.osimage).stamped fun hdry => ⟨hs.1.2 hdry, hs.2 hdry⟩
  · exact hs.1.1 o

theorem preserves_rebuildImage (run : Run) : Preserves (rebuildImage run) WellMarked := by
  have hwell : ∀ (_ : Exception) s, Rebuilding run s → WellMarked s := fun _ s hs => hs.1
  have hremove : Ensures (update (modify run.osimage fun image =>
      { image with marker := removeFile run.options.dryRun image.marker }) : Action Unit)
        WellMarked (Rebuilding run) fun _ => WellMarked := by
    apply ensures_update
    intro s hs
    refine ⟨preserves_modify (fun image h => h.unmarked _) s hs, ?_⟩
    intro hdry
    simp [modify, removeFile, hdry]
  apply Ensures.preserves
  exact ensures_bind ((preserves_attempt run _).ensures fun _ _ hs => hs) fun _ =>
    ensures_bind hremove fun _ =>
      ensures_bind ((preserves_beginRebuild run).ensures hwell) fun _ =>
        ensures_bind ((preserves_performAll (preserves_perform_rebuilding run) _).ensures hwell)
          fun _ => ensures_bind (ensures_completeRebuild run) fun _ =>
            ensures_writeImageQueueMarker run

/-- Wherever a run stops, the markers that are left name complete images. -/
theorem preserves_createImage (run : Run) : Preserves (createImage run) WellMarked := by
  refine preserves_bind (preserves_reuseExistingImage run) fun reuse => preserves_bind ?_ fun _ =>
    preserves_performAll (preserves_perform run) _
  cases reuse with
  | true => exact preserves_pure _
  | false => exact preserves_rebuildImage run

/-! ## When a run reuses -/

/-- The options leave the choice to the marker, and the run reaches it. -/
structure Chooses (run : Run) : Prop where
  options : run.options = {}
  imageType : run.imageType = .Netboot
  platform : run.fails .configurePlatform = false

theorem returns_attempt {run : Run} {step : Step} {s s' : HeadNode} {u : Unit} :
    Returns (attempt run step) s u s' ↔ run.fails step = false ∧ s = s' := by
  unfold attempt
  cases run.fails step <;> simp

theorem returns_generateOSImagePath {run : Run} {s s' : HeadNode} {u : Unit} :
    Returns (generateOSImagePath run) s u s' ↔ run.imageType = .Netboot ∧ s = s' := by
  unfold generateOSImagePath
  cases run.imageType <;> simp

theorem returns_imageExists {run : Run} {s s' : HeadNode} :
    Returns (imageExists run) s true s' ↔
      run.options.dryRun = false ∧ run.options.forceGenimage = false ∧
        (s run.osimage).defined = true ∧ s' = s := by
  have hsame : modify run.osimage (fun image => image) s = s := by
    funext o
    simp [modify]
  unfold imageExists
  cases hdry : run.options.dryRun with
  | true => simp
  | false =>
    cases hforce : run.options.forceGenimage with
    | true => simp [returns_bind, modify]
    | false =>
      simp only [Bool.false_eq_true, if_false, returns_bind, returns_update, returns_read,
        returns_pure, hsame]
      constructor
      · rintro ⟨_, _, rfl, _, _, ⟨rfl, rfl⟩, hdefined, rfl⟩
        exact ⟨trivial, trivial, hdefined, rfl⟩
      · rintro ⟨-, -, hdefined, rfl⟩
        exact ⟨(), s', rfl, s', s', ⟨rfl, rfl⟩, hdefined, rfl⟩

theorem reuses_iff {run : Run} {s s' : HeadNode} :
    Returns (reuseExistingImage run) s true s' ↔
      Chooses run ∧ (s run.osimage).defined = true ∧
        imageMatchesSelectedQueue run.site (s run.osimage).marker = true ∧ s' = s := by
  unfold reuseExistingImage
  simp only [returns_bind, returns_attempt, returns_generateOSImagePath, returns_read, returns_pure,
    shouldReuseExistingImage, Bool.and_eq_true, Bool.not_eq_true']
  constructor
  · rintro ⟨_, _, ⟨hplatform, rfl⟩, _, _, ⟨htype, rfl⟩, found, s₁, hfound, _, _, ⟨rfl, rfl⟩,
      ⟨⟨rfl, hmatches⟩, hskip⟩, rfl⟩
    obtain ⟨hdry, hforce, hdefined, rfl⟩ := returns_imageExists.mp hfound
    refine ⟨⟨?_, htype, hplatform⟩, hdefined, hmatches, rfl⟩
    cases hoptions : run.options
    simp_all
  · rintro ⟨⟨hoptions, htype, hplatform⟩, hdefined, hmatches, rfl⟩
    have hfound : Returns (imageExists run) s' true s' :=
      returns_imageExists.mpr ⟨by rw [hoptions], by rw [hoptions], hdefined, rfl⟩
    exact ⟨(), s', ⟨hplatform, rfl⟩, (), s', ⟨htype, rfl⟩, true, s', hfound, s', s', ⟨rfl, rfl⟩,
      ⟨⟨rfl, hmatches⟩, by rw [hoptions]⟩, rfl⟩

theorem beforeFirst_append_of_not_mem {c : Char} {s t : String} (h : c ∉ s.toList) :
    beforeFirst c (s ++ t) = s ++ beforeFirst c t := by
  have hs : ∀ d ∈ s.toList, decide (d ≠ c) = true := by
    intro d hd
    simpa using fun hdc : d = c => h (hdc ▸ hd)
  rw [beforeFirst, String.toList_append, List.takeWhile_append_of_pos hs, beforeFirst]
  apply String.toList_injective
  simp

theorem beforeFirst_append_self {c : Char} {s sep : String} (hsep : sep.toList = [c]) :
    beforeFirst c (s ++ sep) = beforeFirst c s := by
  unfold beforeFirst
  rw [String.toList_append, hsep, List.takeWhile_append]
  split
  · rename_i hlength
    have hall := List.IsPrefix.eq_of_length (List.takeWhile_prefix _) hlength
    rw [hall]
    simp
  · rfl

/-- The first line of a marker is its value, up to a line break in the host name. -/
theorem beforeFirst_marker (site : Site) :
    beforeFirst '\n' (queueMarkerValue site ++ "\n") =
      if site.queue = some .PBS then "pbs " ++ beforeFirst '\n' site.hostname
      else queueMarkerToken site.queue := by
  rw [beforeFirst_append_self rfl]
  unfold queueMarkerValue
  split
  · rename_i hqueue
    rw [hqueue]
    exact beforeFirst_append_of_not_mem (by decide)
  · apply beforeFirst_of_not_mem
    unfold queueMarkerToken
    split <;> decide

theorem queueMarkerToken_eq_pbs {queue : Option QueueKind} :
    queueMarkerToken queue = "pbs" ↔ queue = some .PBS := by
  rcases queue with _ | _ | _ | _ <;> decide

/-- Two markers agree in their first line. -/
theorem imageMatchesSelectedQueue_iff {site site' : Site} :
    imageMatchesSelectedQueue site' (some (queueMarkerValue site ++ "\n")) = true ↔
      queueMarkerToken site.queue = queueMarkerToken site'.queue ∧
        (site.queue = some .PBS → beforeFirst '\n' site.hostname = site'.hostname) := by
  have hspace : ∀ h : String, ' ' ∈ ("pbs " ++ h).toList := by simp
  have htoken : ∀ queue, ' ' ∉ (queueMarkerToken queue).toList := by
    intro queue
    unfold queueMarkerToken
    split <;> decide
  simp only [imageMatchesSelectedQueue, decide_eq_true_eq]
  rw [beforeFirst_marker, queueMarkerValue]
  by_cases h : site.queue = some .PBS <;> by_cases h' : site'.queue = some .PBS
  · rw [if_pos h, if_pos h', h, h']
    exact (String.append_right_inj "pbs ").trans (by simp)
  · rw [if_pos h, if_neg h', h]
    constructor
    · intro heq
      exact absurd (heq ▸ hspace _) (htoken site'.queue)
    · rintro ⟨htokens, -⟩
      exact absurd (queueMarkerToken_eq_pbs.mp htokens.symm) h'
  · rw [if_neg h, if_pos h', h']
    constructor
    · intro heq
      exact absurd (heq ▸ hspace site'.hostname) (htoken site.queue)
    · rintro ⟨htokens, -⟩
      exact absurd (queueMarkerToken_eq_pbs.mp htokens) h
  · rw [if_neg h, if_neg h']
    simp [h]

/-! ## Sequences of runs -/

section

variable [Inet6]

/-- A run that reuses an image finds the one that it would build, as far as the queue system
goes. -/
def SoundReuse (s : HeadNode) (run : Run) : Prop := ∀ s', Returns (reuseExistingImage run) s true s' →
  ∃ site, (s' run.osimage).built = some site ∧ queueStaging site = queueStaging run.site

omit [Inet6] in
/-- The marker decides: the options leave the choice to it, and the image is there. -/
def Reusable (s : HeadNode) (run : Run) : Prop :=
  Chooses run ∧ (s run.osimage).defined = true ∧ ∃ content ∈ (s run.osimage).marker, content ≠ ""

/-- What a marker does not record is as it was when the image was completed. -/
def Unchanged (s : HeadNode) (run : Run) : Prop :=
  Reusable s run → ∀ site, (s run.osimage).built = some site →
    (site.queue = some .SLURM → run.site.queue = some .SLURM →
      site.management.toText = run.site.management.toText) ∧
    (site.queue = some .PBS → run.site.queue = some .PBS →
      beforeFirst '\n' site.hostname = run.site.hostname → site.hostname = run.site.hostname)

theorem configureSLURM_eq_iff {site site' : Site}
    (htype : site.nodeOS.getPackageType = site'.nodeOS.getPackageType) :
    configureSLURM site = configureSLURM site' ↔
      site.management.toText = site'.management.toText := by
  unfold configureSLURM
  rw [htype]
  constructor
  · intro h
    have hpost := congrArg Staging.postinstall h
    simp only [List.cons.injEq, and_true] at hpost
    simpa [String.append_assoc, String.append_left_inj, String.append_right_inj] using hpost
  · intro h
    rw [h]

omit [Inet6] in
/-- A text that holds a name twice determines the name. -/
theorem eq_of_append_twice {a b m e : String} (h : a ++ (m ++ (a ++ e)) = b ++ (m ++ (b ++ e))) :
    a = b := by
  have hlist := congrArg String.toList h
  simp only [String.toList_append] at hlist
  have hlength := congrArg List.length hlist
  simp only [List.length_append] at hlength
  exact String.toList_injective (List.append_inj hlist (by omega)).1

omit [Inet6] in
theorem configurePBS_eq_iff {site site' : Site} :
    configurePBS site = configurePBS site' ↔ site.hostname = site'.hostname := by
  constructor
  · intro h
    have hpost := congrArg Staging.postinstall h
    simp only [configurePBS, List.cons.injEq, and_true, String.append_assoc,
      String.append_right_inj] at hpost
    exact eq_of_append_twice hpost
  · intro h
    unfold configurePBS
    rw [h]

/-- Where the markers agree, the stagings do exactly when what is not recorded does. -/
theorem queueStaging_eq_iff {site site' : Site}
    (htype : site.nodeOS.getPackageType = site'.nodeOS.getPackageType)
    (htoken : queueMarkerToken site.queue = queueMarkerToken site'.queue) :
    queueStaging site = queueStaging site' ↔
      (site.queue = some .SLURM → site'.queue = some .SLURM →
        site.management.toText = site'.management.toText) ∧
      (site.queue = some .PBS → site'.queue = some .PBS → site.hostname = site'.hostname) := by
  unfold queueStaging
  rcases hq : site.queue with _ | _ | _ | _ <;> rcases hq' : site'.queue with _ | _ | _ | _ <;>
    first
    | (rw [hq, hq'] at htoken; exact absurd htoken (by decide))
    | simp [configureSLURM_eq_iff htype, configurePBS_eq_iff]

omit [Inet6] in
/-- The marker of a dry run matches no cluster. -/
theorem not_matches_empty (site : Site) : imageMatchesSelectedQueue site (some "") ≠ true := by
  have hne : queueMarkerValue site ≠ "" := by
    unfold queueMarkerValue queueMarkerToken
    rcases hq : site.queue with _ | _ | _ | _ <;> simp
  intro h
  exact hne (of_decide_eq_true h).symm

theorem soundReuse_iff {s : HeadNode} (hs : WellMarked s) (run : Run) :
    SoundReuse s run ↔ Unchanged s run := by
  obtain ⟨hnamed, hmarked⟩ := hs run.osimage
  have htype : ∀ site ∈ (s run.osimage).built,
      site.nodeOS.getPackageType = run.site.nodeOS.getPackageType := by
    intro site hsite
    obtain ⟨imageType, nodeType, hname⟩ := hnamed site hsite
    exact getPackageType_of_generateOSImageName hname
  constructor
  · rintro hsound ⟨hchooses, hdefined, content, hcontent, hne⟩ site hsite
    obtain hempty | ⟨other, hother, hvalue⟩ := hmarked content hcontent
    · exact absurd hempty hne
    · obtain rfl : site = other := Option.some.inj (hsite.symm.trans hother)
      have hreuse : queueMarkerToken site.queue = queueMarkerToken run.site.queue →
          (site.queue = some .PBS → beforeFirst '\n' site.hostname = run.site.hostname) →
          queueStaging site = queueStaging run.site := by
        intro htoken hhostname
        have hmatches : imageMatchesSelectedQueue run.site (s run.osimage).marker = true := by
          rw [show (s run.osimage).marker = some content from hcontent, hvalue]
          exact imageMatchesSelectedQueue_iff.mpr ⟨htoken, hhostname⟩
        obtain ⟨found, hfound, hstaging⟩ :=
          hsound s (reuses_iff.mpr ⟨hchooses, hdefined, hmatches, rfl⟩)
        obtain rfl := Option.some.inj (hsite.symm.trans hfound)
        exact hstaging
      constructor
      · intro hq hq'
        have htoken : queueMarkerToken site.queue = queueMarkerToken run.site.queue := by rw [hq, hq']
        have hstaging := hreuse htoken fun hpbs => absurd (hq.symm.trans hpbs) (by decide)
        exact ((queueStaging_eq_iff (htype site hsite) htoken).mp hstaging).1 hq hq'
      · intro hq hq' hhostname
        have htoken : queueMarkerToken site.queue = queueMarkerToken run.site.queue := by rw [hq, hq']
        have hstaging := hreuse htoken fun _ => hhostname
        exact ((queueStaging_eq_iff (htype site hsite) htoken).mp hstaging).2 hq hq'
  · intro hunchanged s' hreuse
    obtain ⟨hchooses, hdefined, hmatches, rfl⟩ := reuses_iff.mp hreuse
    obtain ⟨content, hcontent⟩ : ∃ content, (s' run.osimage).marker = some content := by
      apply Option.ne_none_iff_exists'.mp
      intro hnone
      simp [hnone, imageMatchesSelectedQueue] at hmatches
    rw [hcontent] at hmatches
    obtain rfl | ⟨site, hsite, rfl⟩ := hmarked content hcontent
    · exact absurd hmatches (not_matches_empty run.site)
    · obtain ⟨htoken, hhostname⟩ := imageMatchesSelectedQueue_iff.mp hmatches
      have hreusable : Reusable s' run := ⟨hchooses, hdefined, _, hcontent, by simp⟩
      obtain ⟨hslurm, hpbs⟩ := hunchanged hreusable site hsite
      refine ⟨site, hsite, (queueStaging_eq_iff (htype site hsite) htoken).mpr ⟨hslurm, ?_⟩⟩
      intro hq hq'
      exact hpbs hq hq' (hhostname hq)

/-- The head node after a sequence of runs, each of which may have failed. -/
def afterRuns (s : HeadNode) (runs : List Run) : HeadNode :=
  runs.foldl (fun s run => (createImage run s).2) s

omit [Inet6] in
theorem wellMarked_afterRuns {s : HeadNode} (hs : WellMarked s) (runs : List Run) :
    WellMarked (afterRuns s runs) := by
  induction runs generalizing s with
  | nil => exact hs
  | cons run runs ih => exact ih (preserves_createImage run s hs)

omit [Inet6] in
/-- A head node on which no image was built yet. -/
def untouched (defined : String → Bool) : HeadNode := fun osimage => { defined := defined osimage }

omit [Inet6] in
theorem wellMarked_untouched (defined : String → Bool) : WellMarked (untouched defined) := by
  intro osimage
  constructor
  · intro site hsite
    exact absurd hsite (by simp [untouched])
  · intro content hcontent
    exact absurd hcontent (by simp [untouched])

theorem image_reuse_sound_iff (defined : String → Bool) (runs : List Run) :
    (∀ earlier run later, runs = earlier ++ run :: later →
        SoundReuse (afterRuns (untouched defined) earlier) run) ↔
      ∀ earlier run later, runs = earlier ++ run :: later →
        Unchanged (afterRuns (untouched defined) earlier) run := by
  have hstep : ∀ (earlier : List Run) (run : Run),
      SoundReuse (afterRuns (untouched defined) earlier) run ↔
        Unchanged (afterRuns (untouched defined) earlier) run := by
    intro earlier run
    exact soundReuse_iff (wellMarked_afterRuns (wellMarked_untouched defined) earlier) run
  exact forall_congr' fun earlier => forall_congr' fun run => forall_congr' fun later =>
    imp_congr_right fun _ => hstep earlier run

end

/-- A SLURM cluster with its head node at `management`. -/
def slurmSite (management : Address) : Site where
  nodeOS :=
    { arch := .x86_64
      family := .Linux
      platform := .el9
      distro := .Rocky
      kernel := none
      majorVersion := 9
      minorVersion := 5 }
  queue := some .SLURM
  hostname := "headnode"
  management

/-- A run of which `copycds` leaves a definition. -/
def slurmRun (management : Address) : Run where
  site := slurmSite management
  defines := fun step defined => step = .copycds || defined

/-- The address of the head node changes from 10.0.0.1 to 10.0.0.2 between two runs: the second
one reuses the image whose nodes ask the old address for their configuration. -/
theorem moved_slurm_server_reuses :
    ¬ ∀ earlier run later,
      [slurmRun (.v4 0x0a000001), slurmRun (.v4 0x0a000002)] = earlier ++ run :: later →
        @SoundReuse plainInet6 (afterRuns (untouched fun _ => false) earlier) run := by
  intro h
  have hsound := h [slurmRun (.v4 0x0a000001)] (slurmRun (.v4 0x0a000002)) [] rfl
  have hreuse : Returns (reuseExistingImage (slurmRun (.v4 0x0a000002)))
      (afterRuns (untouched fun _ => false) [slurmRun (.v4 0x0a000001)]) true
      (afterRuns (untouched fun _ => false) [slurmRun (.v4 0x0a000001)]) := by
    refine reuses_iff.mpr ⟨⟨rfl, rfl, rfl⟩, ?_, ?_, rfl⟩ <;> decide
  obtain ⟨site, hsite, hstaging⟩ := hsound _ hreuse
  have hbuilt : (afterRuns (untouched fun _ => false) [slurmRun (.v4 0x0a000001)]
      (slurmRun (.v4 0x0a000002)).osimage).built = some (slurmSite (.v4 0x0a000001)) := by
    decide
  obtain rfl := Option.some.inj (hbuilt.symm.trans hsite)
  exact absurd hstaging (by decide)

end XCAT

end OpenCattus

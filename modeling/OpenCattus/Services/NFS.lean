import OpenCattus.Services.ScriptBuilder

/-!
# The scripts of NFS

`NFS::installScript` exports directories of the head node; `NFS::imageInstallScript` makes the
nodes mount them.

`nfs_scripts_iff` says for which previous contents the scripts are complete and idempotent.
-/

namespace OpenCattus

open Foundations

/-! ## The scripts -/

namespace NFS

open ScriptBuilder

def installScript (provisioner : String) (os : OS) : List ScriptCommand :=
  let deb := os.getPackageType = .DEB
  let nfsServerPackage := if deb then "nfs-kernel-server" else "nfs-utils"
  let nfsServerServices := if deb then "rpcbind nfs-kernel-server" else "rpcbind nfs-server"
  [.command "#!/bin/bash -xeu",
    addNewLine,
    .command "# Variables",
    .assignHostname "HEADNODE",
    addNewLine,
    .command "# install packages",
    addPackage os nfsServerPackage,
    addNewLine,
    .command "# Add exports to /etc/exports",
    .lineToFile "/etc/exports" "^/home[[:space:]]"
      "/home *(rw,no_subtree_check,fsid=10,no_root_squash)",
    .lineToFile "/etc/exports" "/opt/ohpc/pub" "/opt/ohpc/pub *(ro,no_subtree_check,fsid=11)",
    .lineToFile "/etc/exports" "/opt/spack" "/opt/spack *(ro,no_subtree_check)"] ++
  (if provisioner = "xcat" then
    [.lineToFile "/etc/exports" "/tftpboot" "/tftpboot *(rw,no_root_squash,sync,no_subtree_check)",
      .lineToFile "/etc/exports" "/install" "/install *(rw,no_root_squash,sync,no_subtree_check)",
      addNewLine]
  else []) ++
  [enableService nfsServerServices,
    .command "exportfs -a > /dev/null 2>&1 || :",
    addNewLine,
    .command ("# Update firewall rules\n" ++
      "\tif systemctl is-active --quiet firewalld.service; then\n" ++
      "\t    firewall-cmd --permanent --add-service=\x7bnfs,mountd,rpc-bind\x7d\n" ++
      "\t    firewall-cmd --reload\n" ++
      "\tfi")]

structure ImageInstallArgs where
  imageName : String
  rootfs : String
  postinstall : String
  pkglist : String
  deriving DecidableEq, Repr

/-- `XCAT::getImageInstallArgs`, on the name and the path of the image. -/
def getImageInstallArgs (osimage chroot : String) : ImageInstallArgs where
  imageName := osimage
  rootfs := chroot
  postinstall := "/install/custom/netboot/compute.postinstall"
  pkglist := "/install/custom/netboot/compute.otherpkglist"

def imageInstallScript (os : OS) (args : ImageInstallArgs) : List ScriptCommand :=
  let nfsClientPackage := if os.getPackageType = .DEB then "nfs-common" else "nfs-utils"
  [.command "#!/bin/bash -xeu",
    addNewLine,
    .command "# Define variables (for shell script execution)",
    .assign "IMAGE" args.imageName,
    .assign "ROOTFS" args.rootfs,
    .assign "POSTINSTALL" args.postinstall,
    .assign "PKGLIST" args.pkglist,
    .assignHostname "HEADNODE",
    addNewLine,
    .command "# Add autofs commands to postinstall",
    .lineToFile "$\x7bPOSTINSTALL\x7d" "autofs"
      "chroot \\$\x7bIMG_ROOTIMGDIR\x7d systemctl enable autofs",
    .command "chmod +x \"$\x7bPOSTINSTALL\x7d\"",
    addNewLine,
    .command "# Add required packages to the image",
    .lineToFile "$\x7bPKGLIST\x7d" nfsClientPackage nfsClientPackage,
    .lineToFile "$\x7bPKGLIST\x7d" "autofs" "autofs",
    addNewLine,
    .command "# Configure autofs",
    .lineToFile "$\x7bROOTFS\x7d/etc/auto.master" "/home" "/home   /etc/auto.home",
    .lineToFile "$\x7bROOTFS\x7d/etc/auto.master" "/opt/ohpc/pub"
      "/opt/ohpc/pub   /etc/auto.ohpc",
    addNewLine,
    .lineToFile "$\x7bROOTFS\x7d/etc/auto.home" "home-map"
      "* -fstype=nfs,rw,no_subtree_check,no_root_squash $\x7bHEADNODE\x7d:/home/&",
    addNewLine,
    .lineToFile "$\x7bROOTFS\x7d/etc/auto.ohpc" "ohpc-map"
      "* -fstype=nfs,ro,no_subtree_check $\x7bHEADNODE\x7d:/opt/ohpc/pub/&",
    addNewLine,
    .command "# Create mount points",
    .command "mkdir -p $\x7bROOTFS\x7d/home $\x7bROOTFS\x7d/opt/ohpc/pub || :",
    addNewLine,
    .command "# Update xCAT configuration",
    .command "chdef -t osimage $\x7bIMAGE\x7d postinstall=\"$\x7bPOSTINSTALL\x7d\""]

end NFS

/-! ## The lines -/

def exportAdditions (provisioner : String) : List LineAddition :=
  [⟨"/etc/exports", "^/home[[:space:]]", "/home *(rw,no_subtree_check,fsid=10,no_root_squash)"⟩,
    ⟨"/etc/exports", "/opt/ohpc/pub", "/opt/ohpc/pub *(ro,no_subtree_check,fsid=11)"⟩,
    ⟨"/etc/exports", "/opt/spack", "/opt/spack *(ro,no_subtree_check)"⟩] ++
  if provisioner = "xcat" then
    [⟨"/etc/exports", "/tftpboot", "/tftpboot *(rw,no_root_squash,sync,no_subtree_check)"⟩,
      ⟨"/etc/exports", "/install", "/install *(rw,no_root_squash,sync,no_subtree_check)"⟩]
  else []

def nfsClientPackage (os : OS) : String :=
  if os.getPackageType = .DEB then "nfs-common" else "nfs-utils"

def imageAdditions (os : OS) (rootfs hostname : String) : List LineAddition :=
  [⟨"/install/custom/netboot/compute.postinstall", "autofs",
      "chroot $\x7bIMG_ROOTIMGDIR\x7d systemctl enable autofs"⟩,
    ⟨"/install/custom/netboot/compute.otherpkglist", nfsClientPackage os, nfsClientPackage os⟩,
    ⟨"/install/custom/netboot/compute.otherpkglist", "autofs", "autofs"⟩,
    ⟨rootfs ++ "/etc/auto.master", "/home", "/home   /etc/auto.home"⟩,
    ⟨rootfs ++ "/etc/auto.master", "/opt/ohpc/pub", "/opt/ohpc/pub   /etc/auto.ohpc"⟩,
    ⟨rootfs ++ "/etc/auto.home", "home-map",
      "* -fstype=nfs,rw,no_subtree_check,no_root_squash " ++ hostname ++ ":/home/&"⟩,
    ⟨rootfs ++ "/etc/auto.ohpc", "ohpc-map",
      "* -fstype=nfs,ro,no_subtree_check " ++ hostname ++ ":/opt/ohpc/pub/&"⟩]

theorem additionsOf_addPackage (hostname : String) (values : String → String) (os : OS)
    (pkg : String) (script : List ScriptCommand) :
    additionsOf hostname values (ScriptBuilder.addPackage os pkg :: script) =
      additionsOf hostname values script := by
  unfold ScriptBuilder.addPackage
  split
  · rfl
  · rfl

theorem expandedAddition_of {values : String → String} {path key line path' key' line' : String}
    (hpath : Shell.expand values path = path') (hkey : Shell.expand values key = key')
    (hline : Shell.expand values line = line') :
    expandedAddition values path key line = ⟨path', key', line'⟩ := by
  rw [expandedAddition, hpath, hkey, hline]

/-- Texts without variables are what they say. -/
def isPlainAddition (a : LineAddition) : Bool :=
  a.path.toList.all Shell.isQuotedPlain && a.key.toList.all Shell.isQuotedPlain &&
    a.line.toList.all Shell.isQuotedPlain

theorem expandedAddition_of_plain (values : String → String) {as : List LineAddition}
    (h : as.all isPlainAddition = true) :
    as.map (fun a => expandedAddition values a.path a.key a.line) = as := by
  refine (List.map_congr_left fun a ha => ?_).trans (List.map_id as)
  have hplain := List.all_eq_true.mp h a ha
  simp only [isPlainAddition, Bool.and_eq_true] at hplain
  exact expandedAddition_of (Shell.expand_of_plain hplain.1.1) (Shell.expand_of_plain hplain.1.2)
    (Shell.expand_of_plain hplain.2)

theorem scriptAdditions_installScript (hostname provisioner : String) (os : OS) :
    scriptAdditions hostname (NFS.installScript provisioner os) = exportAdditions provisioner := by
  have hraw : ∃ values, scriptAdditions hostname (NFS.installScript provisioner os) =
      (exportAdditions provisioner).map fun a => expandedAddition values a.path a.key a.line := by
    unfold scriptAdditions NFS.installScript exportAdditions
    by_cases hxcat : provisioner = "xcat"
    · rw [if_pos hxcat, if_pos hxcat]
      exact ⟨_, additionsOf_addPackage hostname _ os _ _⟩
    · rw [if_neg hxcat, if_neg hxcat]
      exact ⟨_, additionsOf_addPackage hostname _ os _ _⟩
  obtain ⟨values, hraw⟩ := hraw
  rw [hraw]
  apply expandedAddition_of_plain
  unfold exportAdditions
  split
  · decide
  · decide

/-- The variables of the script, when all are assigned. -/
def imageValues (hostname osimage chroot : String) : String → String :=
  let image := Function.update (fun _ => "") "IMAGE" (Shell.expand (fun _ => "") osimage)
  let rootfs := Function.update image "ROOTFS" (Shell.expand image chroot)
  let postinstall := Function.update rootfs "POSTINSTALL"
    (Shell.expand rootfs "/install/custom/netboot/compute.postinstall")
  let pkglist := Function.update postinstall "PKGLIST"
    (Shell.expand postinstall "/install/custom/netboot/compute.otherpkglist")
  Function.update pkglist "HEADNODE" hostname

theorem imageValues_postinstall (hostname osimage chroot : String) :
    imageValues hostname osimage chroot "POSTINSTALL" =
      "/install/custom/netboot/compute.postinstall" := by
  have hplain : ∀ values, Shell.expand values "/install/custom/netboot/compute.postinstall" =
      "/install/custom/netboot/compute.postinstall" := fun _ =>
    Shell.expand_of_plain (by decide)
  simp [imageValues, hplain]

theorem imageValues_pkglist (hostname osimage chroot : String) :
    imageValues hostname osimage chroot "PKGLIST" =
      "/install/custom/netboot/compute.otherpkglist" := by
  have hplain : ∀ values, Shell.expand values "/install/custom/netboot/compute.otherpkglist" =
      "/install/custom/netboot/compute.otherpkglist" := fun _ =>
    Shell.expand_of_plain (by decide)
  simp [imageValues, hplain]

theorem imageValues_headnode (hostname osimage chroot : String) :
    imageValues hostname osimage chroot "HEADNODE" = hostname := by
  simp [imageValues]

/-- The line commands behind the assignments. -/
theorem additionsOf_imageInstallScript (hostname : String) (values : String → String) (os : OS)
    (args : NFS.ImageInstallArgs) :
    additionsOf hostname values ((NFS.imageInstallScript os args).drop 9) =
      [expandedAddition values "$\x7bPOSTINSTALL\x7d" "autofs"
          "chroot \\$\x7bIMG_ROOTIMGDIR\x7d systemctl enable autofs",
        expandedAddition values "$\x7bPKGLIST\x7d" (nfsClientPackage os) (nfsClientPackage os),
        expandedAddition values "$\x7bPKGLIST\x7d" "autofs" "autofs",
        expandedAddition values ("$\x7bROOTFS\x7d" ++ "/etc/auto.master") "/home"
          "/home   /etc/auto.home",
        expandedAddition values ("$\x7bROOTFS\x7d" ++ "/etc/auto.master") "/opt/ohpc/pub"
          "/opt/ohpc/pub   /etc/auto.ohpc",
        expandedAddition values ("$\x7bROOTFS\x7d" ++ "/etc/auto.home") "home-map"
          ("* -fstype=nfs,rw,no_subtree_check,no_root_squash " ++ "$\x7bHEADNODE\x7d" ++
            ":/home/&"),
        expandedAddition values ("$\x7bROOTFS\x7d" ++ "/etc/auto.ohpc") "ohpc-map"
          ("* -fstype=nfs,ro,no_subtree_check " ++ "$\x7bHEADNODE\x7d" ++
            ":/opt/ohpc/pub/&")] := by
  unfold NFS.imageInstallScript
  rfl

theorem expand_nfsClientPackage (values : String → String) (os : OS) :
    Shell.expand values (nfsClientPackage os) = nfsClientPackage os := by
  unfold nfsClientPackage
  split
  · exact Shell.expand_of_plain (by decide)
  · exact Shell.expand_of_plain (by decide)

theorem expand_rootfs (values : String → String) {behind : String}
    (hbehind : behind.toList.all Shell.isQuotedPlain = true) :
    Shell.expand values ("$\x7bROOTFS\x7d" ++ behind) = values "ROOTFS" ++ behind := by
  have h := @Shell.expand_variable values "" "ROOTFS" behind rfl (by decide) hbehind
  rw [String.empty_append] at h
  exact h

theorem expand_headnode (values : String → String) {before behind : String}
    (hbefore : before.toList.all Shell.isQuotedPlain = true)
    (hbehind : behind.toList.all Shell.isQuotedPlain = true) :
    Shell.expand values (before ++ "$\x7bHEADNODE\x7d" ++ behind) =
      before ++ values "HEADNODE" ++ behind := by
  have h := @Shell.expand_variable values before "HEADNODE" behind hbefore (by decide) hbehind
  rw [@String.append_assoc before, @String.append_assoc before] at h
  exact h

theorem scriptAdditions_imageInstallScript (hostname : String) (os : OS) (osimage chroot : String) :
    scriptAdditions hostname
      (NFS.imageInstallScript os (NFS.getImageInstallArgs osimage chroot)) =
      imageAdditions os (imageValues hostname osimage chroot "ROOTFS") hostname := by
  have hassigned : scriptAdditions hostname
      (NFS.imageInstallScript os (NFS.getImageInstallArgs osimage chroot)) =
      additionsOf hostname (imageValues hostname osimage chroot)
        ((NFS.imageInstallScript os (NFS.getImageInstallArgs osimage chroot)).drop 9) := rfl
  have hpost := imageValues_postinstall hostname osimage chroot
  have hpkg := imageValues_pkglist hostname osimage chroot
  have hhead := imageValues_headnode hostname osimage chroot
  rw [hassigned, additionsOf_imageInstallScript]
  generalize imageValues hostname osimage chroot = values at hpost hpkg hhead ⊢
  have hpostinstall : Shell.expand values "$\x7bPOSTINSTALL\x7d" =
      "/install/custom/netboot/compute.postinstall" := by
    have h := @Shell.expand_variable values "" "POSTINSTALL" "" rfl (by decide) rfl
    rw [hpost] at h
    exact h
  have hpkglist : Shell.expand values "$\x7bPKGLIST\x7d" =
      "/install/custom/netboot/compute.otherpkglist" := by
    have h := @Shell.expand_variable values "" "PKGLIST" "" rfl (by decide) rfl
    rw [hpkg] at h
    exact h
  -- The dollar sign of the line is escaped: the variable is the one of the postinstall script.
  have hchroot : Shell.expand values "chroot \\$\x7bIMG_ROOTIMGDIR\x7d systemctl enable autofs" =
      "chroot $\x7bIMG_ROOTIMGDIR\x7d systemctl enable autofs" := rfl
  have hpackage := expand_nfsClientPackage values os
  have hhome := @expand_headnode values "* -fstype=nfs,rw,no_subtree_check,no_root_squash "
    ":/home/&" (by decide) (by decide)
  have hpub := @expand_headnode values "* -fstype=nfs,ro,no_subtree_check " ":/opt/ohpc/pub/&"
    (by decide) (by decide)
  rw [hhead] at hhome hpub
  have hplain : ∀ text ∈ ["autofs", "/home", "/home   /etc/auto.home", "/opt/ohpc/pub",
      "/opt/ohpc/pub   /etc/auto.ohpc", "home-map", "ohpc-map"],
      Shell.expand values text = text := by
    intro text htext
    apply Shell.expand_of_plain
    revert text
    decide
  simp only [List.forall_mem_cons] at hplain
  obtain ⟨hautofs, hhomeKey, hhomeLine, hpubKey, hpubLine, hhomeMap, hpubMap, -⟩ := hplain
  rw [imageAdditions, expandedAddition_of hpostinstall hautofs hchroot,
    expandedAddition_of hpkglist hpackage hpackage, expandedAddition_of hpkglist hautofs hautofs,
    expandedAddition_of (expand_rootfs values (by decide)) hhomeKey hhomeLine,
    expandedAddition_of (expand_rootfs values (by decide)) hpubKey hpubLine,
    expandedAddition_of (expand_rootfs values (by decide)) hhomeMap hhome,
    expandedAddition_of (expand_rootfs values (by decide)) hpubMap hpub]

/-! ## The lines do not find each other -/

theorem independent_exportAdditions (provisioner : String) :
    Additions.Independent grep (exportAdditions provisioner) := by
  unfold exportAdditions Additions.Independent
  split
  · decide
  · decide

/-- Files whose names end differently have nothing to do with each other. -/
theorem independent_append {as bs : List LineAddition} (has : Additions.Independent grep as)
    (hbs : Additions.Independent grep bs)
    (hlast : ∀ a ∈ as, ∀ b ∈ bs, a.path.toList.getLast? ≠ b.path.toList.getLast?) :
    Additions.Independent grep (as ++ bs) := by
  refine List.pairwise_append.mpr ⟨has, hbs, fun a ha b hb hpath => ?_⟩
  exact absurd (congrArg (·.toList.getLast?) hpath) (hlast a ha b hb)

theorem independent_imageAdditions (os : OS) (rootfs hostname : String) :
    Additions.Independent grep (imageAdditions os rootfs hostname) := by
  have hsingle : ∀ a : LineAddition, Additions.Independent grep [a] := List.pairwise_singleton _
  have hpackages : Additions.Independent grep
      [⟨"/install/custom/netboot/compute.otherpkglist", nfsClientPackage os, nfsClientPackage os⟩,
        ⟨"/install/custom/netboot/compute.otherpkglist", "autofs", "autofs"⟩] := by
    unfold nfsClientPackage Additions.Independent
    split
    · decide
    · decide
  have hmasters : Additions.Independent grep
      [⟨rootfs ++ "/etc/auto.master", "/home", "/home   /etc/auto.home"⟩,
        ⟨rootfs ++ "/etc/auto.master", "/opt/ohpc/pub", "/opt/ohpc/pub   /etc/auto.ohpc"⟩] := by
    refine List.pairwise_pair.mpr fun _ => ?_
    dsimp only
    decide
  refine @independent_append [_] _ (hsingle _) ?_ (by simp)
  refine @independent_append [_, _] _ hpackages ?_ (by simp)
  refine @independent_append [_, _] _ hmasters ?_ (by simp)
  exact @independent_append [_] _ (hsingle _) (hsingle _) (by simp)

/-! ## Complete and idempotent scripts -/

theorem completeIdempotent_installScript_iff (hostname provisioner : String) (os : OS)
    (files : String → List String) :
    CompleteIdempotent hostname (NFS.installScript provisioner os) files ↔
      ∀ a ∈ exportAdditions provisioner, Additions.Settled grep a (files a.path) := by
  have hadditions := scriptAdditions_installScript hostname provisioner os
  rw [← hadditions]
  apply completeIdempotent_iff
  rw [hadditions]
  exact independent_exportAdditions provisioner

theorem completeIdempotent_imageInstallScript_iff (hostname : String) (os : OS)
    (osimage chroot : String) (files : String → List String) :
    CompleteIdempotent hostname
        (NFS.imageInstallScript os (NFS.getImageInstallArgs osimage chroot)) files ↔
      ∀ a ∈ imageAdditions os (imageValues hostname osimage chroot "ROOTFS") hostname,
        Additions.Settled grep a (files a.path) := by
  have hadditions := scriptAdditions_imageInstallScript hostname os osimage chroot
  rw [← hadditions]
  apply completeIdempotent_iff
  rw [hadditions]
  exact independent_imageAdditions os _ hostname

/-- The scripts are complete and idempotent in exactly the files where every key is found only
together with its line, and at the latest in the line. -/
theorem nfs_scripts_iff (hostname : String) (os : OS) (files : String → List String) :
    (∀ provisioner, CompleteIdempotent hostname (NFS.installScript provisioner os) files ↔
      ∀ a ∈ exportAdditions provisioner, Additions.Settled grep a (files a.path)) ∧
    ∀ osimage chroot, CompleteIdempotent hostname
        (NFS.imageInstallScript os (NFS.getImageInstallArgs osimage chroot)) files ↔
      ∀ a ∈ imageAdditions os (imageValues hostname osimage chroot "ROOTFS") hostname,
        Additions.Settled grep a (files a.path) :=
  ⟨fun provisioner => completeIdempotent_installScript_iff hostname provisioner os files,
    fun osimage chroot =>
      completeIdempotent_imageInstallScript_iff hostname os osimage chroot files⟩

/-- The exports, written to an empty file. -/
theorem nfs_scripts_empty : CompleteIdempotent "headnode"
    (NFS.installScript "xcat" (OS.ofPlatform .Rocky .el9 5 .x86_64)) (fun _ => []) := by
  refine ((nfs_scripts_iff "headnode" _ _).1 "xcat").mpr fun a ha => ⟨nofun, .inr ?_⟩
  have hown : (exportAdditions "xcat").all (fun a => grep a.key a.line) = true := by
    decide
  exact List.all_eq_true.mp hown a ha

/-- A comment on one of the directories. -/
def mentionedExports (path : String) : List String :=
  if path = "/etc/exports" then ["# /opt/spack is local"] else []

/-- The key of a map is not in the line that is added, so that the line is added on every run;
and a directory that is mentioned in a comment is not exported. -/
theorem maps_added_again :
    ¬ CompleteIdempotent "headnode"
      (NFS.imageInstallScript (OS.ofPlatform .Rocky .el9 5 .x86_64)
        (NFS.getImageInstallArgs "rocky9.5-x86_64-netboot-compute"
          "/install/netboot/rocky9.5/x86_64/compute/rootimg")) (fun _ => []) ∧
    ¬ CompleteIdempotent "headnode"
      (NFS.installScript "confluent" (OS.ofPlatform .Rocky .el9 5 .x86_64)) mentionedExports := by
  constructor
  · rw [completeIdempotent_imageInstallScript_iff]
    intro h
    simp only [imageAdditions, List.forall_mem_cons] at h
    obtain ⟨-, -, -, -, -, hmap, -⟩ := h
    have hrecognized := hmap.recognized
    revert hrecognized
    decide
  · rw [completeIdempotent_installScript_iff]
    intro h
    have hspack := h ⟨"/etc/exports", "/opt/spack", "/opt/spack *(ro,no_subtree_check)"⟩
      (by decide)
    have hpresent := hspack.present
    revert hpresent
    decide

end OpenCattus

import SchemaDiagram.Proofs.Files.Folder
import SchemaDiagram.Proofs.Job
import SchemaDiagram.Source

namespace SchemaDiagram.Source

variable {d : Desk} {w : Workspace} {at_ : Location} {path directory pattern text : String}
  {parts : FilePattern}

theorem readLines_of_readText (h : w.readText path = .ok text) :
    readLines w path = .ok (textLines text) := by
  rw [readLines, h]

theorem runAt_ofDumpText (text : String) (d : Desk) :
    (ofDumpText text).runAt d =
      (.ok (.statements (Ddl.statements (textLines text))),
        d.log [.splitDump (Ddl.statements (textLines text)).length]) := rfl

theorem runAt_ofDump (h : d.files.readText path = .ok text) :
    (ofDump path).runAt d = (ofDumpText text).runAt d := by
  have hread : (Job.readText path).runAt d = (.ok text, d) := by
    rw [Job.runAt_readText, h]
    rfl
  exact DeskJob.runAt_bind_of_ok hread ofDumpText

theorem matching_perm (w : Workspace) (folder : Location) (parts : FilePattern) :
    (matching w folder parts).Perm ((w.fileNames folder).filter parts.accepts) := by
  rw [matching, w.filterMap_listedNames]
  exact List.mergeSort_perm _ _

theorem pairwise_matching (w : Workspace) (folder : Location) (parts : FilePattern) :
    (matching w folder parts).Pairwise (· ≤ ·) := by
  have htrans : ∀ a b c : String, decide (a ≤ b) = true → decide (b ≤ c) = true →
      decide (a ≤ c) = true := by
    intro a b c hab hbc
    exact decide_eq_true (String.le_trans (of_decide_eq_true hab) (of_decide_eq_true hbc))
  have htotal : ∀ a b : String, (decide (a ≤ b) || decide (b ≤ a)) = true := by
    intro a b
    simpa using String.le_total a b
  exact (List.pairwise_mergeSort htrans htotal _).imp of_decide_eq_true

theorem matching_eq {names : List String}
    (hnames : names.Perm ((w.fileNames at_).filter parts.accepts))
    (hsorted : names.Pairwise (· ≤ ·)) : matching w at_ parts = names :=
  List.Perm.eq_of_pairwise (fun _ _ _ _ => String.le_antisymm) (pairwise_matching w at_ parts)
    hsorted ((matching_perm w at_ parts).trans hnames.symm)

def listing (w : Workspace) (directory : String) (folder : Location) (parts : FilePattern) :
    List String :=
  ((matching w folder parts).map (Path.entry directory)).filter Workspace.fits

theorem runAt_ofFolder (hfolder : d.files.find directory = .ok (at_, .folder))
    (hpattern : FilePattern.parse pattern = .ok parts) :
    (ofFolder directory pattern).runAt d =
      (.ok (.files (listing d.files directory at_ parts)),
        d.log [.listedFiles directory pattern (listing d.files directory at_ parts).length]) := by
  rw [ofFolder, DeskJob.runAt_bind_of_ok (Job.runAt_files d), hfolder]
  dsimp only
  rw [hpattern]
  rfl

def defaultParts : FilePattern := [.anyRun, .literal '.', .literal 's', .literal 'q', .literal 'l']

theorem parse_defaultPattern : FilePattern.parse defaultPattern = .ok defaultParts := by
  decide +kernel

end SchemaDiagram.Source

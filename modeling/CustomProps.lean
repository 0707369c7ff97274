import CustomProps.Command.Session
import CustomProps.Main
import CustomProps.Proofs.Value.Marks
import CustomProps.Proofs.Value.Sites
import CustomProps.Proofs.Value.NamePart
import CustomProps.Proofs.Value.Steps
import CustomProps.Proofs.Value.Layout
import CustomProps.Proofs.Decoration
import CustomProps.Proofs.Renaming
import CustomProps.Proofs.Rescan
import CustomProps.Proofs.Capture
import CustomProps.Proofs.InPlace
import CustomProps.Proofs.RenamingMap
import CustomProps.Proofs.Value.Items
import CustomProps.Proofs.Value.Printed
import CustomProps.Proofs.Discovery
import CustomProps.Proofs.Growth
import CustomProps.Proofs.Counters
import CustomProps.Proofs.Diary
import CustomProps.Proofs.Preview
import CustomProps.Proofs.Arrangement
import CustomProps.Proofs.Passes
import CustomProps.Proofs.Command.Spared
import CustomProps.Proofs.Command.OwnResults
import CustomProps.Proofs.Exchange
import CustomProps.Proofs.Command.Switches
import CustomProps.Proofs.Command.Kept
import CustomProps.Proofs.Files.Rewritten
import CustomProps.Proofs.Command.Repeatable
import CustomProps.Proofs.Command.Repeated
import CustomProps.Proofs.Value.Anatomy
import CustomProps.Proofs.Value.Exactness
import CustomProps.Proofs.Value.Recursion
import CustomProps.Proofs.Value.Frames
import CustomProps.Proofs.OpenEnd
import CustomProps.Proofs.Inserted
import CustomProps.Proofs.Guarded.Scan
import CustomProps.Proofs.Text.Splice
import CustomProps.Proofs.Guarded.Walk
import CustomProps.Proofs.Answers
import CustomProps.Proofs.Command.Merged
import CustomProps.Proofs.Value.Progress
import CustomProps.Proofs.Value.Lockstep

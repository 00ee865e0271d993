import RosBindings.FileTree.Changes
import RosBindings.FileTree.Written
import RosBindings.Main
import RosBindings.Proofs.Comments
import RosBindings.Proofs.Lines
import RosBindings.Proofs.Layout
import RosBindings.Proofs.Uncommented
import RosBindings.Proofs.Printing
import RosBindings.Proofs.Growth
import RosBindings.Proofs.NewFiles
import RosBindings.Proofs.WriteOnce
import RosBindings.Proofs.Runs
import RosBindings.Proofs.Rerun
import RosBindings.Proofs.Isolation
import RosBindings.Proofs.Paths
import RosBindings.Proofs.OutputFolder
import RosBindings.Proofs.Independence
import RosBindings.Proofs.Coverage
import RosBindings.Proofs.Markers
import RosBindings.Proofs.FieldTypes
import RosBindings.Proofs.References
import RosBindings.Proofs.Preview
import RosBindings.Proofs.Resolution
import RosBindings.Proofs.Sections
import RosBindings.Proofs.FieldLines
import RosBindings.Proofs.FirstFault
import RosBindings.Proofs.Braces
import RosBindings.Proofs.CommentEnds
import RosBindings.Proofs.Passes
import RosBindings.Proofs.Containment
import RosBindings.Proofs.Imports
import RosBindings.Proofs.Listings
import RosBindings.Proofs.CamelCase
import RosBindings.Proofs.Accessors
import RosBindings.Proofs.Indentation
import RosBindings.Proofs.Repetition
import RosBindings.Proofs.Javadoc
import RosBindings.Proofs.Stages

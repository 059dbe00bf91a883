import NodeExt2fs.Programs.Transition
import NodeExt2fs.Proof.Reporting.Operations
import NodeExt2fs.Proof.Disk.Addresses
import NodeExt2fs.Proof.Streams.Writing
import NodeExt2fs.Proof.Streams.Transfer
import NodeExt2fs.Proof.Streams.Reading
import NodeExt2fs.Proof.Descriptors.Closed
import NodeExt2fs.Proof.Hooks.Ownership
import NodeExt2fs.Proof.Queue.Serialized
import NodeExt2fs.Proof.Transfers.Ranges
import NodeExt2fs.Proof.Transfers.Sequential
import NodeExt2fs.Proof.Transfers.Appending
import NodeExt2fs.Proof.Transfers.Opening
import NodeExt2fs.Proof.Stats.Fields
import NodeExt2fs.Proof.Names.Unique
import NodeExt2fs.Proof.Names.Parents
import NodeExt2fs.Proof.Handles.Coherent
import NodeExt2fs.Proof.Handles.Live
import NodeExt2fs.Proof.Sessions.Kept
import NodeExt2fs.Proof.Directories.Unchanged
import NodeExt2fs.Proof.Trees.Balanced
import NodeExt2fs.Proof.Transfers.Vectors
import NodeExt2fs.Proof.Streams.Ranged
import NodeExt2fs.Proof.Links.Targets
import NodeExt2fs.Proof.Settings.Precedence
import NodeExt2fs.Proof.Atomic.Linking
import NodeExt2fs.Proof.Atomic.Opening
import NodeExt2fs.Proof.Atomic.Replacing
import NodeExt2fs.Proof.Atomic.Emptied
import NodeExt2fs.Proof.Atomic.Renaming
import NodeExt2fs.Proof.Atomic.HalfMoves
import NodeExt2fs.Proof.Trees.ExactRemoval
import NodeExt2fs.Construction.Glue.Trim
import NodeExt2fs.Construction.Library.Blocks
import NodeExt2fs.Proof.Trim.Runs
import NodeExt2fs.Proof.Trim.Ends
import NodeExt2fs.Construction.Glue.Listing
import NodeExt2fs.Construction.Js.Listing
import NodeExt2fs.Construction.Library.Listing
import NodeExt2fs.Proof.Listing.Names
import NodeExt2fs.Construction.Library.Owners
import NodeExt2fs.Proof.Stats.Owners
import NodeExt2fs.Construction.Js.Unmounting
import NodeExt2fs.Construction.Library.Closing
import NodeExt2fs.Proof.Unmounting.Released
import NodeExt2fs.Construction.Js.Rejections
import NodeExt2fs.Proof.Rejections.Deciding
import NodeExt2fs.Proof.Rejections.Translating
import NodeExt2fs.Proof.Rejections.Negating
import NodeExt2fs.Construction.Library.Dating
import NodeExt2fs.Proof.Stats.Times
import NodeExt2fs.Construction.Library.Crowding
import NodeExt2fs.Proof.Directories.Crowded
import NodeExt2fs.Construction.Js.Contents
import NodeExt2fs.Proof.Transfers.Whole
import NodeExt2fs.Construction.Library.Updates
import NodeExt2fs.Proof.Counts.Updates
import NodeExt2fs.Proof.Counts.Removal
import NodeExt2fs.Proof.Counts.Tallies
import NodeExt2fs.Proof.Counts.Files
import NodeExt2fs.Proof.Counts.Directories
import NodeExt2fs.Proof.Counts.Moves
import NodeExt2fs.Proof.Counts.Ranges
import NodeExt2fs.Construction.Js.Objects
import NodeExt2fs.Proof.Ids.Unshared
import NodeExt2fs.Structures.Utf16
import NodeExt2fs.Construction.Glue.Branches
import NodeExt2fs.Construction.Js.Paths
import NodeExt2fs.Proof.Paths.Splitting
import NodeExt2fs.Construction.Glue.RawTimes
import NodeExt2fs.Structures.Epochs
import NodeExt2fs.Proof.Stamps.Encoding
import NodeExt2fs.Construction.Library.Stamping
import NodeExt2fs.Proof.Stamps.RoundTrips
import NodeExt2fs.Proof.Stamps.Agreement
import NodeExt2fs.Proof.Stamps.Versions
import NodeExt2fs.Construction.Js.Snapshots
import NodeExt2fs.Construction.Library.Viewing
import NodeExt2fs.Proof.Queue.Snapshots
import NodeExt2fs.Construction.Library.Freeing
import NodeExt2fs.Proof.Atomic.HalfFreed
import NodeExt2fs.Structures.Storage
import NodeExt2fs.Construction.Glue.DiskBytes
import NodeExt2fs.Proof.Disk.Partitions
import NodeExt2fs.Proof.Disk.Zeroing
import NodeExt2fs.Programs.Sequence
import NodeExt2fs.Proof.Queue.Sequential
import NodeExt2fs.Proof.Trees.Bindings
import NodeExt2fs.Structures.Exchanges
import NodeExt2fs.Proof.Trees.Refining
import NodeExt2fs.Structures.Decimals
import NodeExt2fs.Construction.Glue.Mounting
import NodeExt2fs.Construction.Js.Mounting
import NodeExt2fs.Proof.Ids.Routed
import NodeExt2fs.Structures.Routes
import NodeExt2fs.Proof.Trees.Resolving
import NodeExt2fs.Proof.Trim.Spared
import NodeExt2fs.Proof.Trees.Overlapping
import NodeExt2fs.Construction.Js.StreamClosing
import NodeExt2fs.Proof.Streams.Closing
import NodeExt2fs.Proof.Trees.Listing
import NodeExt2fs.Construction.Js.LiveHandles
import NodeExt2fs.Proof.Descriptors.Mirrored

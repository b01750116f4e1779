import ByteAtlas.FileTree
import ByteAtlas.Main
import ByteAtlas.Proofs.Walk.Halting
import ByteAtlas.Proofs.Walk.Unrolling
import ByteAtlas.Proofs.Description.Parsing
import ByteAtlas.Proofs.Cache.Changes
import ByteAtlas.Proofs.Cache.History
import ByteAtlas.Proofs.Cache.Seek
import ByteAtlas.Proofs.Cache.Sessions
import ByteAtlas.Proofs.Walk.Lexical
import ByteAtlas.Proofs.Walk.Limit
import ByteAtlas.Proofs.Walk.Failing
import ByteAtlas.Proofs.Cache.Touched
import ByteAtlas.Proofs.Walk.Dependence
import ByteAtlas.Proofs.Walk.Translation
import ByteAtlas.Proofs.Description.Resolving
import ByteAtlas.Proofs.Description.Joining
import ByteAtlas.Proofs.Registry.Registering
import ByteAtlas.Proofs.Registry.Loading
import ByteAtlas.Proofs.Registry.Consistency
import ByteAtlas.Proofs.Registry.Guessing
import ByteAtlas.Proofs.Viewer.Arguments
import ByteAtlas.Proofs.Viewer.Paging
import ByteAtlas.Proofs.Viewer.Limit
import ByteAtlas.Proofs.Format.Building
import ByteAtlas.Proofs.Format.Finished
import ByteAtlas.Proofs.Description.Mirroring
import ByteAtlas.Proofs.Description.Leftmost
import ByteAtlas.Proofs.Description.Escaping
import ByteAtlas.Proofs.Number.Floating
import ByteAtlas.Proofs.Value.Counting
import ByteAtlas.Proofs.Walk.Naming
import ByteAtlas.Proofs.Dump

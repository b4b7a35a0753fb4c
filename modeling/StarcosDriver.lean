import StarcosDriver.Framework
import StarcosDriver.Prog
import StarcosDriver.Card
import StarcosDriver.Select
import StarcosDriver.Acl
import StarcosDriver.Create
import StarcosDriver.Keys
import StarcosDriver.SecurityEnv
import StarcosDriver.Driver
import StarcosDriver.SecurityState
import StarcosDriver.Descriptor
import StarcosDriver.PathCache
import StarcosDriver.Refusal
import StarcosDriver.Peer
import StarcosDriver.Coherence
import StarcosDriver.Walk
import StarcosDriver.KeyChunks
import StarcosDriver.Commands
import StarcosDriver.Fci
import StarcosDriver.SecurityHistory

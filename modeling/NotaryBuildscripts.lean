import NotaryBuildscripts.PyStr
import NotaryBuildscripts.Covertest
import NotaryBuildscripts.Json
import NotaryBuildscripts.Format
import NotaryBuildscripts.Harness
import NotaryBuildscripts.Client
import NotaryBuildscripts.Tester
import NotaryBuildscripts.FeedServer
import NotaryBuildscripts.RefServer
import NotaryBuildscripts.RefWorld
import NotaryBuildscripts.FeedCheck
import NotaryBuildscripts.Driver
import NotaryBuildscripts.Cleanup
